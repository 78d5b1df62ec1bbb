import NetworkControl.ClientOrder

/-!
# What the client leaves behind

Read off `Orderly`: no `std::thread` is assigned to or destroyed while it
is joinable, the caller and the watchdog are never both under the mutex,
and whenever it is free the two receivers are whole (`members_whole`).
After `Disconnect` nothing is left of a connection, and nothing comes back
until the next `Connect` (`disconnect_leaves_nothing`).
-/

namespace NetworkControl

namespace ClientThreads

open LockedStatement

section

variable {s t u : ClientThreads}

/-! ## Between two critical sections -/

/-- A UDP receiver that runs on its socket, or none; a TCP receiver only
beside it, on an open socket, while connected, and one that has ended says
why. -/
structure Whole (s : ClientThreads) : Prop where
  udp : if s.udpIsRunning then
      s.udpWorker.isAlive = true ∧ s.udpSocketOpen = true
    else s.udpWorker = .absent ∧ s.udpSocketOpen = false
  receiver : ∀ r, s.tcpMessageReceiver = some r →
    s.connectionState = .connected ∧ s.tcpSocketOpen = true
      ∧ s.udpIsRunning = true ∧ r.isRunning = true
      ∧ (r.worker.isAlive = true
        ∨ r.worker = .ended ∧ r.hasFailedUnexpectedly = true)

theorem Phase.Holds.whole {p : Phase} (hp : p.Holds s)
    (hsettled : p.settled = true) : s.Whole := by
  obtain ⟨hudp, hreceiver, htcp, hstate⟩ := hp
  rcases Phase.settled_cases hsettled with ⟨hphase, hnone⟩ | hlive
  · rw [hnone] at hreceiver
    refine ⟨?_, fun r hr => ?_⟩
    · rcases hphase with hphase | hphase
      · rw [hphase] at hudp
        rw [hudp.1]
        exact hudp.2
      · rw [hphase] at hudp
        rw [hudp.1]
        exact hudp.2
    · rw [show s.tcpMessageReceiver = none from hreceiver] at hr
      cases hr
  · obtain rfl := hlive
    obtain ⟨r₀, hr₀, hrunning, hended⟩ := hreceiver
    refine ⟨?_, fun r hr => ?_⟩
    · rw [hudp.1]
      exact hudp.2
    · obtain rfl := Option.some.inj (hr₀.symm.trans hr)
      exact ⟨hstate, htcp, hudp.1, hrunning, hended⟩

/-- In every interleaving. -/
theorem members_whole (h : system.Reachable s) :
    s.terminated = false
      ∧ ¬ (s.caller.holds = true ∧ s.watchdog.holds = true)
      ∧ (s.connectionMutex = none → s.Whole) := by
  have hs := orderly_of_reachable h
  refine ⟨hs.safe.1, fun hboth => ?_, fun hfree => ?_⟩
  · have hcaller := hs.caller.mpr hboth.1
    rw [hs.watchdog.mpr hboth.2] at hcaller
    cases hcaller
  · obtain ⟨-, p, hp, hsettled⟩ := hs.settled hfree
    exact hp.whole hsettled

/-- A connection the watchdog has set up again. -/
theorem members_whole_reconnected :
    ∃ s : ClientThreads, s.connectionState = .connected
      ∧ s.tcpMessageReceiver.isSome = true ∧ s.Whole := by
  obtain ⟨s, hs, hp⟩ := Lts.exists_reachable system
    (show system.init {} from rfl)
    ([.connect {}] ++ List.replicate 17 (.caller false)
      ++ [.tcpWorker, .received false, .tcpWorker]
      ++ List.replicate 12 (.watchdog true false) ++ [.udpWorker]
      ++ List.replicate 23 (.watchdog true false))
    (fun s => s.connectionState == .connected && s.connectionMutex == none
      && s.tcpMessageReceiver == some { isRunning := true, worker := .testing }
      && s.watchdog == .testing)
    (by decide +kernel)
  simp only [Bool.and_eq_true, beq_iff_eq] at hp
  obtain ⟨⟨⟨hstate, hfree⟩, hreceiver⟩, -⟩ := hp
  exact ⟨s, hstate, by rw [hreceiver]; rfl, (members_whole hs).2.2 hfree⟩

/-! ## After Disconnect -/

/-- No thread, no socket, no state of a connection. -/
structure Quiet (s : ClientThreads) : Prop where
  connectionState : s.connectionState = .disconnected
  tcpSocketOpen : s.tcpSocketOpen = false
  tcpMessageReceiver : s.tcpMessageReceiver = none
  udpSocketOpen : s.udpSocketOpen = false
  udpIsRunning : s.udpIsRunning = false
  udpWorker : s.udpWorker = .absent
  isWatchdogRunning : s.isWatchdogRunning = false
  watchdog : s.watchdog = .absent

/-- The statements of a `Disconnect` that finds nothing to stop. -/
def idleStatements : List LockedStatement :=
  udpStop ++ [closeTcpSocket, setState .disconnected]

theorem Quiet.disconnect (h : s.Quiet) : s.disconnect = idleStatements := by
  simp [ClientThreads.disconnect, teardownConnectionLocked,
    h.tcpMessageReceiver, idleStatements]

theorem Quiet.perform (h : s.Quiet) {fails : Bool}
    {statement : LockedStatement} {rest work : List LockedStatement}
    (hmem : statement ∈ idleStatements)
    (hperform : s.perform fails rest statement = some (t, work)) :
    t.Quiet ∧ work = rest := by
  simp only [idleStatements, udpStop, List.cons_append, List.nil_append,
    List.mem_cons, List.not_mem_nil, or_false] at hmem
  rcases hmem with rfl | rfl | rfl | rfl | rfl
  · obtain ⟨rfl, rfl⟩ := Prod.mk.inj (Option.some.inj hperform)
    exact ⟨{ h with udpIsRunning := rfl }, rfl⟩
  · rw [ClientThreads.perform, h.udpWorker] at hperform
    obtain ⟨rfl, rfl⟩ := Prod.mk.inj (Option.some.inj hperform)
    exact ⟨{ h with udpWorker := rfl }, rfl⟩
  · obtain ⟨rfl, rfl⟩ := Prod.mk.inj (Option.some.inj hperform)
    exact ⟨{ h with udpSocketOpen := rfl }, rfl⟩
  · obtain ⟨rfl, rfl⟩ := Prod.mk.inj (Option.some.inj hperform)
    exact ⟨{ h with tcpSocketOpen := rfl }, rfl⟩
  · obtain ⟨rfl, rfl⟩ := Prod.mk.inj (Option.some.inj hperform)
    exact ⟨{ h with connectionState := rfl }, rfl⟩

/-- The caller is in no `Connect`, and what is left of its `Disconnect`
finds nothing to stop. -/
def CallerPc.Leaving : CallerPc → Prop
  | .connectLocking _ => False
  | .connecting _ => False
  | .disconnecting work => ∀ statement ∈ work, statement ∈ idleStatements
  | _ => True

theorem Quiet.callerStep (h : s.Quiet) (hcaller : CallerPc.Leaving s.caller)
    {fails : Bool} (hstep : s.callerStep fails = some t) :
    t.Quiet ∧ CallerPc.Leaving t.caller := by
  unfold ClientThreads.callerStep at hstep
  split at hstep
  · cases hstep
  · rename_i config hpc
    rw [hpc] at hcaller
    cases hcaller
  · rename_i statement rest hpc
    rw [hpc] at hcaller
    cases hcaller
  · rename_i hpc
    rw [hpc] at hcaller
    cases hcaller
  · split at hstep
    · cases hstep
    · obtain rfl := Option.some.inj hstep
      exact ⟨{ h with watchdog := rfl }, trivial⟩
  · split at hstep
    · obtain rfl := Option.some.inj hstep
      refine ⟨⟨h.1, h.2, h.3, h.4, h.5, h.6, h.7, h.8⟩, ?_⟩
      show ∀ statement ∈ s.disconnect, _
      rw [h.disconnect]
      exact fun _ hmem => hmem
    · cases hstep
  · rename_i statement rest hpc
    obtain ⟨⟨v, work⟩, hperform, rfl⟩ := Option.map_eq_some_iff.mp hstep
    rw [hpc] at hcaller
    obtain ⟨hv, rfl⟩ := h.perform (hcaller _ List.mem_cons_self) hperform
    exact ⟨⟨hv.1, hv.2, hv.3, hv.4, hv.5, hv.6, hv.7, hv.8⟩,
      fun _ hmem => hcaller _ (List.mem_cons_of_mem _ hmem)⟩
  · obtain rfl := Option.some.inj hstep
    exact ⟨⟨h.1, h.2, h.3, h.4, h.5, h.6, h.7, h.8⟩, trivial⟩

/-- Only `Connect` ends the quiet. -/
theorem Quiet.step (h : s.Quiet) (hcaller : CallerPc.Leaving s.caller)
    {a : Action} (hno : ∀ config, a ≠ .connect config)
    (hstep : s.step a = some t) : t.Quiet ∧ CallerPc.Leaving t.caller := by
  unfold ClientThreads.step at hstep
  split at hstep
  · cases hstep
  · cases a with
    | connect config => exact absurd rfl (hno config)
    | disconnect =>
        simp only at hstep
        split at hstep
        · obtain rfl := Option.some.inj hstep
          exact ⟨{ h with isWatchdogRunning := rfl }, trivial⟩
        · cases hstep
    | caller fails => exact h.callerStep hcaller hstep
    | watchdog retryTimeReached fails =>
        simp [watchdogStep, h.watchdog] at hstep
    | tcpWorker => simp [receiverStep, h.tcpMessageReceiver] at hstep
    | received handled => simp [receiverStep, h.tcpMessageReceiver] at hstep
    | udpWorker => simp [udpWorkerStep, h.udpWorker] at hstep

theorem Quiet.run (h : s.Quiet) (hcaller : CallerPc.Leaving s.caller)
    {as : List Action} (hno : ∀ config, Action.connect config ∉ as)
    (hrun : system.run s as = some t) : t.Quiet := by
  induction as generalizing s with
  | nil =>
      obtain rfl := Option.some.inj hrun
      exact h
  | cons a as ih =>
      obtain ⟨v, hstep, hrest⟩ := Option.bind_eq_some_iff.mp hrun
      have hne : ∀ config, a ≠ .connect config := fun config ha =>
        hno config (ha ▸ List.mem_cons_self)
      obtain ⟨hv, hplace⟩ := h.step hcaller hne hstep
      exact ih hv hplace (fun config hmem =>
        hno config (List.mem_cons_of_mem _ hmem)) hrest

/-- Behind its last statement nothing of a connection is left. -/
theorem Orderly.quiet (hs : s.Orderly) (hpc : s.caller = .disconnecting []) :
    s.Quiet := by
  have hwatching := hs.watching
  obtain ⟨-, p, ⟨hudp, hreceiver, htcp, hstate⟩, hsafe⟩ := hs.safe
  have hheld : s.connectionMutex = some .caller := by
    rw [hs.caller, hpc]
    rfl
  simp only [work, hheld, hpc] at hwatching hsafe
  obtain rfl : p = ⟨.idle, .none, false, .disconnected⟩ :=
    of_decide_eq_true hsafe
  exact ⟨hstate, htcp, hreceiver, hudp.2.2, hudp.1, hudp.2.1, hwatching.1,
    hwatching.2⟩

/-- When `Disconnect` returns, no thread is left to join, no socket is
open and the state is `Disconnected`; so it stays in every run without
another `Connect`. -/
theorem disconnect_leaves_nothing {fails : Bool} {as : List Action}
    (h : system.Reachable s) (hpc : s.caller = .disconnecting [])
    (hreturns : s.step (.caller fails) = some t)
    (hno : ∀ config, Action.connect config ∉ as)
    (hrun : system.run t as = some u) : u.Quiet := by
  have hquiet := (orderly_of_reachable h).quiet hpc
  have hleaving : CallerPc.Leaving s.caller := by
    rw [hpc]
    exact fun _ hmem => absurd hmem List.not_mem_nil
  obtain ⟨ht, hplace⟩ :=
    hquiet.step hleaving (fun _ hcall => by cases hcall) hreturns
  exact ht.run hplace hno hrun

/-- A connection that is up, one `Disconnect` and then another. -/
theorem disconnect_leaves_nothing_twice :
    ∃ s t u, system.Reachable s ∧ s.step (.caller false) = some t
      ∧ system.run t [.disconnect, .caller false] = some u ∧ u.Quiet := by
  obtain ⟨s, hs, hp⟩ := Lts.exists_reachable system
    (show system.init {} from rfl)
    ([.connect {}] ++ List.replicate 17 (.caller false)
      ++ [.disconnect, .watchdog false false]
      ++ List.replicate 4 (.caller false)
      ++ [.tcpWorker]
      ++ List.replicate 6 (.caller false)
      ++ [.udpWorker]
      ++ List.replicate 4 (.caller false))
    (fun s => s.caller == .disconnecting []
      && ((s.step (.caller false)).bind fun t =>
        system.run t [.disconnect, .caller false]).isSome)
    (by decide +kernel)
  simp only [Bool.and_eq_true, beq_iff_eq, Option.isSome_iff_exists,
    Option.bind_eq_some_iff] at hp
  obtain ⟨hpc, u, t, ht, hu⟩ := hp
  exact ⟨s, t, u, hs, ht, hu, disconnect_leaves_nothing hs hpc ht
    (by simp) hu⟩

end

end ClientThreads

end NetworkControl
