import NetworkControl.ClientThreads

/-!
# What holds under the mutex

The holder of `connectionMutex_` takes the two receivers apart and puts
them together one statement at a time. `Phase` says how far it is, and
`Phase.after` what each statement is for: where it may stand and what it
leads to. A list of statements is `safe` if each stands where it may,
whichever steps fail, and the end is as it should be. That the functions
of `GameClient` are safe is then a finite check, and every step keeps the
state in its phase and the rest of the list safe (`Orderly`).
-/

namespace NetworkControl

namespace ClientThreads

open LockedStatement

/-! ## Phases -/

/-- `opened` has the socket and no thread yet. -/
inductive UdpPhase where
  | idle
  | live
  | stopping
  | joined
  | opened
deriving DecidableEq, Repr

/-- `fresh` is not started yet, `resting` stopped and joined. -/
inductive ReceiverPhase where
  | none
  | fresh
  | live
  | stopping
  | resting
deriving DecidableEq, Repr

structure Phase where
  udp : UdpPhase
  receiver : ReceiverPhase
  tcpSocketOpen : Bool
  state : ConnectionState
deriving DecidableEq, Repr

def UdpPhase.Holds (s : ClientThreads) : UdpPhase → Prop
  | idle =>
      s.udpIsRunning = false ∧ s.udpWorker = .absent ∧ s.udpSocketOpen = false
  | live =>
      s.udpIsRunning = true ∧ s.udpWorker.isAlive = true
        ∧ s.udpSocketOpen = true
  | stopping => s.udpIsRunning = false
  | joined => s.udpIsRunning = false ∧ s.udpWorker = .absent
  | opened =>
      s.udpIsRunning = false ∧ s.udpWorker = .absent ∧ s.udpSocketOpen = true

/-- A receiver that ended by itself has said so. -/
def ReceiverPhase.Holds (s : ClientThreads) : ReceiverPhase → Prop
  | none => s.tcpMessageReceiver = Option.none
  | fresh => ∃ r, s.tcpMessageReceiver = some r ∧ r = {}
  | live =>
      ∃ r, s.tcpMessageReceiver = some r ∧ r.isRunning = true
        ∧ (r.worker.isAlive = true
          ∨ r.worker = .ended ∧ r.hasFailedUnexpectedly = true)
  | stopping => ∃ r, s.tcpMessageReceiver = some r ∧ r.isRunning = false
  | resting =>
      ∃ r, s.tcpMessageReceiver = some r ∧ r.isRunning = false
        ∧ r.worker = .absent

namespace Phase

def Holds (p : Phase) (s : ClientThreads) : Prop :=
  p.udp.Holds s ∧ p.receiver.Holds s ∧ s.tcpSocketOpen = p.tcpSocketOpen
    ∧ s.connectionState = p.state

/-! ## What a statement is for -/

/-- Of a step of `ConnectLocked`. -/
def attempted (p : Phase) (fails : Bool) (step : ConnectStep) :
    Option Phase :=
  if p.receiver ≠ .none then none
  else
    match step with
    | .udpStart =>
        if p.udp = .idle then
          some { p with udp := if fails then .idle else .opened }
        else none
    | .tcpCreate => some { p with tcpSocketOpen := !fails }
    | _ => some p

/-- Of the UDP receiver: only where there is no TCP receiver. -/
def udpAfter (p : Phase) (before : UdpPhase → Bool) (after : UdpPhase) :
    Option Phase :=
  if p.receiver = .none ∧ before p.udp = true then
    some { p with udp := after }
  else none

/-- Of a statement that touches no receiver: not while one is half
done. -/
def settledAfter (p after : Phase) : Option Phase :=
  if p.receiver = .none ∨ p.receiver = .live then some after else none

/-- `none` where the statement must not stand. -/
def after (p : Phase) : LockedStatement → Option Phase
  | stopReceiver =>
      if p.receiver = .none ∨ p.receiver = .fresh then none
      else some { p with receiver := .stopping }
  | closeTcpSocket =>
      if p.receiver = .live ∨ p.receiver = .fresh then none
      else some { p with tcpSocketOpen := false }
  | joinReceiver =>
      if p.receiver = .stopping ∧ p.tcpSocketOpen = false then
        some { p with receiver := .resting }
      else none
  | destroyReceiver =>
      if p.receiver = .resting then some { p with receiver := .none } else none
  | stopUdp => p.udpAfter (fun _ => true) .stopping
  | joinUdp => p.udpAfter (· = .stopping) .joined
  | closeUdpSocket => p.udpAfter (· = .joined) .idle
  | attempt _ => none
  | startUdp => p.udpAfter (· = .opened) .live
  | makeReceiver =>
      if p.receiver = .none then some { p with receiver := .fresh } else none
  | startReceiver =>
      if p.receiver = .fresh ∧ p.tcpSocketOpen = true then
        some { p with receiver := .live }
      else none
  | setState state => p.settledAfter { p with state }
  | saveConfig _ => p.settledAfter p
  | startWatchdog => p.settledAfter p

/-- Every statement stands where it may, whichever steps fail, and `final`
holds at the end. -/
def safe (final : Phase → Bool) : Phase → List LockedStatement → Bool
  | p, [] => final p
  | p, attempt step :: rest =>
      (p.attempted false step).any (safe final · rest)
        && (p.attempted true step).any final
  | p, statement :: rest => (p.after statement).any (safe final · rest)

/-- How the mutex is left: whole workers or none, and a TCP receiver only
beside a UDP receiver, on an open socket, while connected. -/
def settled (p : Phase) : Bool :=
  (p.udp = .idle || p.udp = .live)
    && (p.receiver = .none
      || p.receiver = .live && p.udp = .live && p.tcpSocketOpen
        && p.state = .connected)

/-- How `Disconnect` leaves it. -/
def quiet (p : Phase) : Bool :=
  p = ⟨.idle, .none, false, .disconnected⟩

theorem settled_of_quiet {p : Phase} (h : p.quiet = true) :
    p.settled = true := by
  obtain rfl : p = ⟨.idle, .none, false, .disconnected⟩ :=
    of_decide_eq_true h
  rfl

theorem safe_weaken {final final' : Phase → Bool}
    (h : ∀ p, final p = true → final' p = true) :
    ∀ {work : List LockedStatement} {p : Phase},
      safe final p work = true → safe final' p work = true
  | [], p, hsafe => h p hsafe
  | statement :: rest, p, hsafe => by
      have hany : ∀ o : Option Phase,
          o.any (safe final · rest) = true →
          o.any (safe final' · rest) = true := by
        intro o ho
        cases o with
        | none => cases ho
        | some q => exact safe_weaken h ho
      cases statement with
      | attempt step =>
          simp only [safe, Bool.and_eq_true] at hsafe ⊢
          refine ⟨hany _ hsafe.1, ?_⟩
          have hfails := hsafe.2
          cases hq : p.attempted true step with
          | none =>
              rw [hq] at hfails
              cases hfails
          | some q =>
              rw [hq] at hfails
              exact h q hfails
      | _ => exact hany _ hsafe

end Phase

/-! ## The functions are safe -/

section

variable {s : ClientThreads} {p : Phase}

theorem Phase.Holds.isSome_receiver (h : p.Holds s) :
    s.tcpMessageReceiver.isSome = decide (p.receiver ≠ .none) := by
  obtain ⟨-, hreceiver, -, -⟩ := h
  cases hp : p.receiver with
  | none =>
      rw [hp] at hreceiver
      rw [show s.tcpMessageReceiver = none from hreceiver]
      rfl
  | _ =>
      rw [hp] at hreceiver
      obtain ⟨r, hr, -⟩ := hreceiver
      rw [hr]
      rfl

/-- `settled` in its few cases. -/
theorem Phase.settled_cases (h : p.settled = true) :
    (p.udp = .idle ∨ p.udp = .live) ∧ p.receiver = .none
      ∨ p = ⟨.live, .live, true, .connected⟩ := by
  obtain ⟨udp, receiver, tcpSocketOpen, state⟩ := p
  cases udp <;> cases receiver <;> cases tcpSocketOpen <;> cases state <;>
    simp_all [settled]

theorem disconnect_safe (hp : p.settled = true) (h : p.Holds s) :
    p.safe Phase.quiet s.disconnect = true := by
  have hsome := h.isSome_receiver
  obtain ⟨udp, receiver, tcpSocketOpen, state⟩ := p
  simp only [disconnect, teardownConnectionLocked, hsome]
  rcases Phase.settled_cases hp with ⟨hudp, hnone⟩ | hlive
  · obtain rfl : receiver = .none := hnone
    rcases hudp with hudp | hudp <;> obtain rfl := hudp <;> rfl
  · obtain ⟨rfl, rfl, rfl, rfl⟩ := Phase.mk.inj hlive
    rfl

theorem connect_safe (hp : p.settled = true) (h : p.Holds s)
    (config : ClientConfig) :
    p.safe Phase.settled (s.connect config) = true := by
  have hsome := h.isSome_receiver
  have hstate := h.2.2.2
  obtain ⟨udp, receiver, tcpSocketOpen, state⟩ := p
  simp only [connect, teardownConnectionLocked, hsome, hstate]
  rcases Phase.settled_cases hp with ⟨hudp, hnone⟩ | hlive
  · obtain rfl : receiver = .none := hnone
    rcases hudp with hudp | hudp <;> obtain rfl := hudp <;>
      cases state <;> rfl
  · obtain ⟨rfl, rfl, rfl, rfl⟩ := Phase.mk.inj hlive
    rfl

theorem watchdogIteration_safe (hp : p.settled = true) (h : p.Holds s)
    (retryTimeReached : Bool) :
    p.safe Phase.settled (s.watchdogIteration retryTimeReached) = true := by
  have hsome := h.isSome_receiver
  have hstate := h.2.2.2
  have hstay : p.safe Phase.settled [] = true := hp
  obtain ⟨udp, receiver, tcpSocketOpen, state⟩ := p
  simp only [watchdogIteration, hstate]
  rcases Phase.settled_cases hp with ⟨hudp, hnone⟩ | hlive
  · obtain rfl : receiver = .none := hnone
    rw [show s.tcpMessageReceiver = none from h.2.1]
    cases state with
    | reconnecting =>
        cases retryTimeReached with
        | false => exact hstay
        | true =>
            rcases hudp with hudp | hudp <;> obtain rfl := hudp <;> rfl
    | _ => exact hstay
  · obtain ⟨rfl, rfl, rfl, rfl⟩ := Phase.mk.inj hlive
    obtain ⟨r, hr, -, -⟩ := h.2.1
    simp only [teardownConnectionLocked, hr]
    cases r.hasFailedUnexpectedly with
    | false => exact hstay
    | true => rfl

end

/-! ## Statements keep to their phases -/

section

variable {s t : ClientThreads} {p q : Phase} {final : Phase → Bool}
  {fails : Bool} {statement : LockedStatement}
  {rest work : List LockedStatement}

theorem ReceiverPhase.Holds.exists_receiver {phase : ReceiverPhase}
    (h : phase.Holds s) (hsome : phase ≠ .none) :
    ∃ r, s.tcpMessageReceiver = some r := by
  cases phase with
  | none => contradiction
  | fresh => exact ⟨h.choose, h.choose_spec.1⟩
  | live => exact ⟨h.choose, h.choose_spec.1⟩
  | stopping => exact ⟨h.choose, h.choose_spec.1⟩
  | resting => exact ⟨h.choose, h.choose_spec.1⟩

theorem modifyReceiver_some {r : ReceiverMember}
    (hr : s.tcpMessageReceiver = some r) (f : ReceiverMember → ReceiverMember) :
    (s.modifyReceiver f).tcpMessageReceiver = some (f r) := by
  rw [modifyReceiver, hr]
  rfl

theorem Phase.udpAfter_some {before : UdpPhase → Bool} {after : UdpPhase}
    (h : p.udpAfter before after = some q) :
    before p.udp = true ∧ q = { p with udp := after } := by
  rw [udpAfter] at h
  split at h
  · rename_i hbefore
    exact ⟨hbefore.2, (Option.some.inj h).symm⟩
  · cases h

theorem Phase.settledAfter_some {after : Phase}
    (h : p.settledAfter after = some q) : q = after := by
  rw [settledAfter] at h
  split at h
  · exact (Option.some.inj h).symm
  · cases h

/-- A statement that cannot fail. -/
theorem perform_holds (hp : p.Holds s) (hterminated : s.terminated = false)
    (hwatchdog : statement = startWatchdog →
      s.isWatchdogRunning = false → s.watchdog = .absent)
    (hafter : p.after statement = some q)
    (hperform : s.perform fails rest statement = some (t, work)) :
    q.Holds t ∧ t.terminated = false ∧ work = rest := by
  obtain ⟨hudp, hreceiver, htcp, hstate⟩ := hp
  cases statement with
  | stopReceiver =>
      obtain ⟨rfl, rfl⟩ := Prod.mk.inj (Option.some.inj hperform)
      rw [Phase.after] at hafter
      split at hafter
      · cases hafter
      · rename_i hsome
        obtain rfl := Option.some.inj hafter
        obtain ⟨r, hr⟩ := hreceiver.exists_receiver fun h => hsome (Or.inl h)
        exact ⟨⟨hudp, ⟨_, modifyReceiver_some hr _, rfl⟩, htcp, hstate⟩,
          hterminated, rfl⟩
  | closeTcpSocket =>
      obtain ⟨rfl, rfl⟩ := Prod.mk.inj (Option.some.inj hperform)
      rw [Phase.after] at hafter
      split at hafter
      · cases hafter
      · obtain rfl := Option.some.inj hafter
        exact ⟨⟨hudp, hreceiver, rfl, hstate⟩, hterminated, rfl⟩
  | joinReceiver =>
      rw [perform] at hperform
      split at hperform
      · cases hperform
      · obtain ⟨rfl, rfl⟩ := Prod.mk.inj (Option.some.inj hperform)
        rw [Phase.after] at hafter
        split at hafter
        · rename_i hstopping
          obtain rfl := Option.some.inj hafter
          rw [hstopping.1] at hreceiver
          obtain ⟨r, hr, hstopped⟩ := hreceiver
          exact ⟨⟨hudp, ⟨_, modifyReceiver_some hr _, hstopped, rfl⟩, htcp,
            hstate⟩, hterminated, rfl⟩
        · cases hafter
  | destroyReceiver =>
      obtain ⟨rfl, rfl⟩ := Prod.mk.inj (Option.some.inj hperform)
      rw [Phase.after] at hafter
      split at hafter
      · rename_i hresting
        obtain rfl := Option.some.inj hafter
        rw [hresting] at hreceiver
        obtain ⟨r, hr, -, habsent⟩ := hreceiver
        refine ⟨⟨hudp, rfl, htcp, hstate⟩, ?_, rfl⟩
        simp [hterminated, hr, habsent]
      · cases hafter
  | stopUdp =>
      obtain ⟨rfl, rfl⟩ := Prod.mk.inj (Option.some.inj hperform)
      rw [Phase.after] at hafter
      obtain ⟨-, rfl⟩ := Phase.udpAfter_some hafter
      exact ⟨⟨rfl, hreceiver, htcp, hstate⟩, hterminated, rfl⟩
  | joinUdp =>
      rw [perform] at hperform
      split at hperform
      · cases hperform
      · obtain ⟨rfl, rfl⟩ := Prod.mk.inj (Option.some.inj hperform)
        rw [Phase.after] at hafter
        obtain ⟨hstopping, rfl⟩ := Phase.udpAfter_some hafter
        rw [of_decide_eq_true hstopping] at hudp
        exact ⟨⟨⟨hudp, rfl⟩, hreceiver, htcp, hstate⟩, hterminated, rfl⟩
  | closeUdpSocket =>
      obtain ⟨rfl, rfl⟩ := Prod.mk.inj (Option.some.inj hperform)
      rw [Phase.after] at hafter
      obtain ⟨hjoined, rfl⟩ := Phase.udpAfter_some hafter
      rw [of_decide_eq_true hjoined] at hudp
      exact ⟨⟨⟨hudp.1, hudp.2, rfl⟩, hreceiver, htcp, hstate⟩, hterminated,
        rfl⟩
  | attempt step => cases hafter
  | startUdp =>
      obtain ⟨rfl, rfl⟩ := Prod.mk.inj (Option.some.inj hperform)
      rw [Phase.after] at hafter
      obtain ⟨hopened, rfl⟩ := Phase.udpAfter_some hafter
      rw [of_decide_eq_true hopened] at hudp
      obtain ⟨-, habsent, hopen⟩ := hudp
      refine ⟨⟨⟨rfl, rfl, hopen⟩, hreceiver, htcp, hstate⟩, ?_, rfl⟩
      simp [hterminated, habsent]
  | makeReceiver =>
      rw [Phase.after] at hafter
      split at hafter
      · rename_i hnone
        obtain rfl := Option.some.inj hafter
        rw [hnone] at hreceiver
        rw [perform, show s.tcpMessageReceiver = none from hreceiver] at hperform
        obtain ⟨rfl, rfl⟩ := Prod.mk.inj (Option.some.inj hperform)
        exact ⟨⟨hudp, ⟨_, rfl, rfl⟩, htcp, hstate⟩, hterminated, rfl⟩
      · cases hafter
  | startReceiver =>
      obtain ⟨rfl, rfl⟩ := Prod.mk.inj (Option.some.inj hperform)
      rw [Phase.after] at hafter
      split at hafter
      · rename_i hfresh
        obtain rfl := Option.some.inj hafter
        rw [hfresh.1] at hreceiver
        obtain ⟨r, hr, rfl⟩ := hreceiver
        refine ⟨⟨hudp, ⟨_, modifyReceiver_some hr _, rfl, Or.inl rfl⟩, htcp,
          hstate⟩, ?_, rfl⟩
        simp [hterminated, hr]
      · cases hafter
  | setState state =>
      obtain ⟨rfl, rfl⟩ := Prod.mk.inj (Option.some.inj hperform)
      obtain rfl := Phase.settledAfter_some hafter
      exact ⟨⟨hudp, hreceiver, htcp, rfl⟩, hterminated, rfl⟩
  | saveConfig config =>
      obtain ⟨rfl, rfl⟩ := Prod.mk.inj (Option.some.inj hperform)
      obtain rfl := Phase.settledAfter_some hafter
      exact ⟨⟨hudp, hreceiver, htcp, hstate⟩, hterminated, rfl⟩
  | startWatchdog =>
      obtain rfl := Phase.settledAfter_some hafter
      rw [perform] at hperform
      split at hperform
      · obtain ⟨rfl, rfl⟩ := Prod.mk.inj (Option.some.inj hperform)
        exact ⟨⟨hudp, hreceiver, htcp, hstate⟩, hterminated, rfl⟩
      · rename_i hstopped
        obtain ⟨rfl, rfl⟩ := Prod.mk.inj (Option.some.inj hperform)
        refine ⟨⟨hudp, hreceiver, htcp, hstate⟩, ?_, rfl⟩
        simp [hterminated, hwatchdog rfl (by simpa using hstopped)]

/-- A statement that can. -/
theorem attempted_holds (hp : p.Holds s) {step : ConnectStep}
    (hattempted : p.attempted fails step = some q) :
    q.Holds (s.attempted fails step) := by
  obtain ⟨hudp, hreceiver, htcp, hstate⟩ := hp
  unfold Phase.attempted at hattempted
  split at hattempted
  · cases hattempted
  · cases step with
    | udpStart =>
        dsimp only at hattempted
        split at hattempted
        · rename_i hidle
          obtain rfl := Option.some.inj hattempted
          rw [hidle] at hudp
          cases fails with
          | false => exact ⟨⟨hudp.1, hudp.2.1, rfl⟩, hreceiver, htcp, hstate⟩
          | true => exact ⟨⟨hudp.1, hudp.2.1, rfl⟩, hreceiver, htcp, hstate⟩
        · cases hattempted
    | tcpCreate =>
        obtain rfl := Option.some.inj hattempted
        exact ⟨hudp, hreceiver, rfl, hstate⟩
    | _ =>
        obtain rfl := Option.some.inj hattempted
        exact ⟨hudp, hreceiver, htcp, hstate⟩

/-- `work` is safe in the phase `s` is in. -/
def Safe (s : ClientThreads) (final : Phase → Bool)
    (work : List LockedStatement) : Prop :=
  s.terminated = false ∧ ∃ p : Phase, p.Holds s ∧ p.safe final work = true

/-- A worker that is to be joined has been told to stop, and the socket it
may wait on is closed. -/
theorem Safe.before_joinReceiver (h : s.Safe final (joinReceiver :: rest)) :
    s.tcpSocketOpen = false
      ∧ ∃ r, s.tcpMessageReceiver = some r ∧ r.isRunning = false := by
  obtain ⟨-, p, ⟨-, hreceiver, htcp, -⟩, hsafe⟩ := h
  obtain ⟨q, hq, -⟩ := (Option.any_eq_true _ _).mp hsafe
  rw [Phase.after] at hq
  split at hq
  · rename_i hstopping
    rw [hstopping.1] at hreceiver
    exact ⟨htcp.trans hstopping.2, hreceiver⟩
  · cases hq

theorem Safe.before_joinUdp (h : s.Safe final (joinUdp :: rest)) :
    s.udpIsRunning = false := by
  obtain ⟨-, p, ⟨hudp, -⟩, hsafe⟩ := h
  obtain ⟨q, hq, -⟩ := (Option.any_eq_true _ _).mp hsafe
  rw [Phase.after] at hq
  obtain ⟨hstopping, -⟩ := Phase.udpAfter_some hq
  rw [of_decide_eq_true hstopping] at hudp
  exact hudp

theorem perform_safe (h : s.Safe final (statement :: rest))
    (hwatchdog : statement = startWatchdog →
      s.isWatchdogRunning = false → s.watchdog = .absent)
    (hperform : s.perform fails rest statement = some (t, work)) :
    t.Safe final work := by
  obtain ⟨hterminated, p, hp, hsafe⟩ := h
  cases statement with
  | attempt step =>
      obtain ⟨rfl, rfl⟩ := Prod.mk.inj (Option.some.inj hperform)
      simp only [Phase.safe, Bool.and_eq_true, Option.any_eq_true] at hsafe
      have hquiet : (s.attempted fails step).terminated = false := by
        cases step <;> exact hterminated
      cases fails with
      | false =>
          obtain ⟨q, hq, hrest⟩ := hsafe.1
          exact ⟨hquiet, q, attempted_holds hp hq, hrest⟩
      | true =>
          obtain ⟨q, hq, hend⟩ := hsafe.2
          exact ⟨hquiet, q, attempted_holds hp hq, hend⟩
  | _ =>
      obtain ⟨q, hq, hrest⟩ := (Option.any_eq_true _ _).mp hsafe
      obtain ⟨hholds, hquiet, rfl⟩ :=
        perform_holds hp hterminated hwatchdog hq hperform
      exact ⟨hquiet, q, hholds, hrest⟩

end

end ClientThreads

end NetworkControl
