import NetworkControl.GameClient
import NetworkControl.Lts

/-!
# Connected and recoverable

The client's connection as three threads change it: the caller with
`Connect` and `Disconnect`, the watchdog, and the TCP receiver, which may
lose the server at any time. Each holds `connectionMutex_` for a whole
step; `Disconnect` stops the watchdog first and takes the mutex after
that, so it is two steps.

While the state is `Connected` the watchdog is to notice a lost
connection, which takes a receiver that is there, and alive or known to
have failed. `connected_recoverable` says so for every run in which no
`Connect` fails while connected: such a call has torn the connection down
by then and leaves the state as it was.
-/

namespace NetworkControl

/-- The client, and how many `Disconnect`s have stopped the watchdog and
are still to take the mutex. -/
structure Connection where
  client : GameClient := {}
  disconnecting : Nat := 0

inductive ConnectionAction where
  | connect (config : ClientConfig) (fails : Option ConnectStep)
  | disconnect
  | disconnectLocked
  | watchdog (retryTimeReached : Bool) (fails : Option ConnectStep)
  | receiverFails
  | command (command : Command) (sendOk : Bool) (now : TimePoint)

namespace GameClient

/-- The receiver's loop ends although nobody stopped it. -/
def receiverFails (c : GameClient) : GameClient :=
  { c with tcpMessageReceiver := c.tcpMessageReceiver.map ReceiverThread.fail }

/-- The first step of `Disconnect`, up to the join. -/
def stopWatchdog (c : GameClient) : GameClient :=
  { c with isWatchdogRunning := false }

/-- The rest of it, under the mutex. -/
def disconnectLocked (c : GameClient) : GameClient :=
  { c.teardownConnectionLocked with connectionState := .disconnected }

theorem disconnect_eq (c : GameClient) :
    c.disconnect = c.stopWatchdog.disconnectLocked := rfl

end GameClient

namespace Connection

def step (s : Connection) : ConnectionAction → Option Connection
  | .connect config fails =>
      some { s with client := (s.client.connect config fails).2 }
  | .disconnect =>
      some
        { client := s.client.stopWatchdog
          disconnecting := s.disconnecting + 1 }
  | .disconnectLocked =>
      if s.disconnecting = 0 then none
      else
        some
          { client := s.client.disconnectLocked
            disconnecting := s.disconnecting - 1 }
  | .watchdog retryTimeReached fails =>
      some { s with
        client := s.client.watchdogIteration retryTimeReached fails }
  | .receiverFails => some { s with client := s.client.receiverFails }
  | .command command sendOk now =>
      some { s with client := (command.run s.client sendOk now).2 }

def system : Lts Connection ConnectionAction where
  init s := s = {}
  step := step

/-! ## What connected is to mean -/

/-- The TCP receive worker runs on an open socket, or its failure shows. -/
def Watched (c : GameClient) (receiver : ReceiverThread) : Prop :=
  (c.tcpSocketOpen = true ∧ receiver.isRunning = true
    ∧ receiver.inLoop = true) ∨ receiver.hasFailedUnexpectedly = true

/-- What the state `Connected` promises. -/
structure Recoverable (s : Connection) : Prop where
  receiver : ∃ receiver, s.client.tcpMessageReceiver = some receiver
    ∧ Watched s.client receiver
  udp : s.client.udpReceiver.isRunning = true
  watchdog : s.disconnecting = 0 → s.client.isWatchdogRunning = true
  noticed : ∀ retryTimeReached fails, s.client.isWatchdogRunning = true →
    (s.client.receiverFails.watchdogIteration retryTimeReached
      fails).connectionState = .reconnecting

/-- A receiver that fails now shows it, as one that has failed. -/
theorem Watched.fail {c : GameClient} {receiver : ReceiverThread}
    (h : Watched c receiver) : receiver.fail.hasFailedUnexpectedly = true := by
  rcases h with ⟨-, hrunning, -⟩ | hfailed
  · simp [ReceiverThread.fail, hrunning]
  · simp [ReceiverThread.fail, hfailed]

theorem watchdogIteration_receiverFails {c : GameClient}
    {receiver : ReceiverThread} (hstate : c.connectionState = .connected)
    (hreceiver : c.tcpMessageReceiver = some receiver)
    (hwatched : Watched c receiver) (hwatchdog : c.isWatchdogRunning = true)
    (retryTimeReached : Bool) (fails : Option ConnectStep) :
    (c.receiverFails.watchdogIteration retryTimeReached
      fails).connectionState = .reconnecting := by
  simp [GameClient.receiverFails, GameClient.watchdogIteration, hwatchdog,
    hstate, hreceiver, hwatched.fail]

/-! ## The invariant -/

/-- Connected: a watched receiver, a running UDP receiver and watchdog.
Otherwise there is no receiver. -/
structure Sound (s : Connection) : Prop where
  receiver : s.client.connectionState = .connected →
    ∃ receiver, s.client.tcpMessageReceiver = some receiver
      ∧ Watched s.client receiver
  udp : s.client.connectionState = .connected →
    s.client.udpReceiver.isRunning = true
  watchdog : s.client.connectionState = .connected →
    s.disconnecting = 0 → s.client.isWatchdogRunning = true
  idle : s.client.connectionState ≠ .connected →
    s.client.tcpMessageReceiver = none

/-- No `Connect` fails while connected. -/
def ConnectKept (s : Connection) : ConnectionAction → Prop
  | .connect _ fails =>
      s.client.connectionState = .connected → fails = none
  | _ => True

instance (s : Connection) : (a : ConnectionAction) → Decidable (s.ConnectKept a)
  | .connect _ _ => inferInstanceAs (Decidable (_ → _))
  | .disconnect | .disconnectLocked | .watchdog _ _ | .receiverFails
  | .command _ _ _ => .isTrue trivial

section

variable {c : GameClient} {n : Nat}

/-- A connection made where there was no receiver, with the watchdog on. -/
theorem sound_connected (config : ClientConfig)
    (hnone : c.tcpMessageReceiver = none) :
    Sound
      ⟨{ (c.connectLocked none).2 with
          lastConfig := config
          isWatchdogRunning := true }, n⟩ := by
  refine ⟨?_, fun _ => rfl, fun _ _ => rfl, fun hstate => absurd rfl hstate⟩
  intro _
  refine ⟨{}, rfl, Or.inl ⟨?_, rfl, rfl⟩⟩
  show c.tcpMessageReceiver.isNone = true
  rw [hnone]
  rfl

/-- A failed attempt leaves the state and the receiver alone. -/
theorem connectLocked_failed (c : GameClient) (step : ConnectStep) :
    (c.connectLocked (some step)).1 = false
      ∧ (c.connectLocked (some step)).2.connectionState = c.connectionState
      ∧ (c.connectLocked (some step)).2.tcpMessageReceiver
        = c.tcpMessageReceiver := by
  cases step <;> exact ⟨rfl, rfl, rfl⟩

theorem sound_idle (hstate : c.connectionState ≠ .connected)
    (hnone : c.tcpMessageReceiver = none) : Sound ⟨c, n⟩ :=
  ⟨fun h => absurd h hstate, fun h => absurd h hstate,
    fun h => absurd h hstate, fun _ => hnone⟩

/-- What `Connect` starts from: no receiver, in whatever state. -/
theorem connect_from (hs : Sound ⟨c, n⟩) (config : ClientConfig)
    (fails : Option ConnectStep) :
    ∃ b : GameClient, b.tcpMessageReceiver = none
      ∧ b.connectionState = c.connectionState
      ∧ c.connect config fails
        = if (b.connectLocked fails).1 then
            (true, { (b.connectLocked fails).2 with
              lastConfig := config
              isWatchdogRunning := true })
          else (false, (b.connectLocked fails).2) := by
  by_cases hstate : c.connectionState = .disconnected
  · refine ⟨c, hs.idle ?_, rfl, ?_⟩
    · intro h
      rw [show c.connectionState = _ from h] at hstate
      cases hstate
    · simp [GameClient.connect, hstate]
  · refine ⟨c.teardownConnectionLocked, rfl, rfl, ?_⟩
    simp [GameClient.connect, hstate]

theorem sound_connect (hs : Sound ⟨c, n⟩) (config : ClientConfig)
    {fails : Option ConnectStep}
    (hkept : c.connectionState = .connected → fails = none) :
    Sound ⟨(c.connect config fails).2, n⟩ := by
  obtain ⟨b, hnone, hstate, hconnect⟩ := connect_from hs config fails
  rw [hconnect]
  cases fails with
  | none => exact sound_connected config hnone
  | some step =>
      obtain ⟨hfailed, hsame, hreceiver⟩ := connectLocked_failed b step
      rw [hfailed]
      refine sound_idle ?_ (hreceiver.trans hnone)
      intro h
      exact nomatch hkept (hstate.symm.trans (hsame.symm.trans h))

theorem sound_watchdog (hs : Sound ⟨c, n⟩) (retryTimeReached : Bool)
    (fails : Option ConnectStep) :
    Sound ⟨c.watchdogIteration retryTimeReached fails, n⟩ := by
  cases hrunning : c.isWatchdogRunning with
  | false =>
      have hstay : c.watchdogIteration retryTimeReached fails = c := by
        simp [GameClient.watchdogIteration, hrunning]
      rw [hstay]
      exact hs
  | true =>
      rcases c.watchdogIteration_cases retryTimeReached fails with
        hsame | ⟨-, hdown⟩ | ⟨hstate, -, hretry⟩
      · rw [hsame]
        exact hs
      · rw [hdown]
        exact sound_idle (fun h => by cases h) rfl
      · have hidle : c.connectionState ≠ .connected := by
          rw [hstate]
          decide
        have hnone : c.tcpMessageReceiver = none := hs.idle hidle
        rw [hretry]
        cases fails with
        | none =>
            have hsound := sound_connected (n := n) c.lastConfig hnone
            rw [← hrunning] at hsound
            exact hsound
        | some step =>
            obtain ⟨-, hsame, hreceiver⟩ := connectLocked_failed c step
            exact sound_idle (hsame ▸ hidle) (hreceiver.trans hnone)

theorem sound_receiverFails (hs : Sound ⟨c, n⟩) :
    Sound ⟨c.receiverFails, n⟩ := by
  refine ⟨?_, hs.udp, hs.watchdog, ?_⟩
  · intro hstate
    obtain ⟨receiver, hreceiver, hwatched⟩ := hs.receiver hstate
    refine ⟨receiver.fail, ?_, Or.inr hwatched.fail⟩
    show c.tcpMessageReceiver.map ReceiverThread.fail = _
    rw [show c.tcpMessageReceiver = _ from hreceiver]
    rfl
  · intro hstate
    show c.tcpMessageReceiver.map ReceiverThread.fail = none
    rw [show c.tcpMessageReceiver = none from hs.idle hstate]
    rfl

/-- Commands neither start nor stop a worker. -/
theorem sound_command (hs : Sound ⟨c, n⟩) (command : Command)
    (sendOk : Bool) (now : TimePoint) :
    Sound ⟨(command.run c sendOk now).2, n⟩ := by
  have hudp : (command.run c sendOk now).2.udpReceiver.isRunning
      = c.udpReceiver.isRunning := by
    rw [Command.run]
    split
    · rfl
    · dsimp only
      split <;> cases command <;> rfl
  obtain ⟨udpReceiver, hrun⟩ := command.run_receiver c sendOk now
  rw [hrun] at hudp ⊢
  exact ⟨hs.receiver, fun h => hudp.trans (hs.udp h), hs.watchdog, hs.idle⟩

end

theorem sound_step {s t : Connection} {a : ConnectionAction} (hs : Sound s)
    (hok : s.ConnectKept a) (h : s.step a = some t) : Sound t := by
  cases a with
  | connect config fails =>
      obtain rfl := Option.some.inj h
      exact sound_connect hs config hok
  | disconnect =>
      obtain rfl := Option.some.inj h
      exact ⟨hs.receiver, hs.udp, fun _ hzero => (nomatch hzero), hs.idle⟩
  | disconnectLocked =>
      rw [step] at h
      split at h
      · cases h
      · obtain rfl := Option.some.inj h
        exact sound_idle (fun h => nomatch h) rfl
  | watchdog retryTimeReached fails =>
      obtain rfl := Option.some.inj h
      exact sound_watchdog hs retryTimeReached fails
  | receiverFails =>
      obtain rfl := Option.some.inj h
      exact sound_receiverFails hs
  | command command sendOk now =>
      obtain rfl := Option.some.inj h
      exact sound_command hs command sendOk now

/-- In every run in which no `Connect` fails while connected, the state
`Connected` is recoverable. -/
theorem connected_recoverable {s : Connection}
    (h : system.ReachableUnder ConnectKept s)
    (hconnected : s.client.connectionState = .connected) : Recoverable s := by
  have hsound : Sound s := by
    refine h.invariant ?_ fun _ _ _ => sound_step
    rintro _ rfl
    exact sound_idle (fun h => nomatch h) rfl
  obtain ⟨receiver, hreceiver, hwatched⟩ := hsound.receiver hconnected
  refine ⟨⟨receiver, hreceiver, hwatched⟩, hsound.udp hconnected,
    hsound.watchdog hconnected, ?_⟩
  intro retryTimeReached fails hwatchdog
  exact watchdogIteration_receiverFails hconnected hreceiver hwatched
    hwatchdog retryTimeReached fails

/-- Whatever step of it fails, a `Connect` that fails while connected
leaves nothing to recover from. -/
theorem connect_failed_unrecoverable (s : Connection) (config : ClientConfig)
    (fails : ConnectStep)
    (hconnected : s.client.connectionState = .connected) :
    (s.client.connect config (some fails)).2.connectionState = .connected
      ∧ (s.client.connect config (some fails)).2.tcpMessageReceiver
        = none := by
  obtain ⟨hfailed, hsame, hreceiver⟩ :=
    connectLocked_failed s.client.teardownConnectionLocked fails
  simp only [GameClient.connect, hconnected]
  simp only [ne_eq, reduceCtorEq, not_false_eq_true, if_true, hfailed,
    Bool.false_eq_true, if_false]
  exact ⟨hsame.trans hconnected, hreceiver⟩

/-- The server goes away, the watchdog reconnects at its second try. -/
theorem connected_recoverable_reconnected :
    ∃ s : Connection, s.client.connectionState = .connected
      ∧ s.client.lastConfig.udpPort = 6001 ∧ Recoverable s := by
  obtain ⟨s, hs, hp⟩ := Lts.exists_reachableUnder system ConnectKept
    (show system.init {} from rfl)
    [.connect {} (some .tcpConnect), .connect { udpPort := 6001 } none,
      .receiverFails, .watchdog false none, .watchdog true (some .tcpCreate),
      .watchdog true none]
    (fun s => s.client.connectionState == .connected
      && s.client.lastConfig.udpPort == 6001)
    (by decide +kernel)
  simp only [Bool.and_eq_true, beq_iff_eq] at hp
  exact ⟨s, hp.1, hp.2, connected_recoverable hs hp.1⟩

/-- A second `Connect`, to a port that is taken. -/
theorem connected_unrecoverable :
    ∃ s, system.Reachable s ∧ s.client.connectionState = .connected
      ∧ s.client.tcpMessageReceiver = none
      ∧ s.client.udpReceiver.isRunning = false
      ∧ ¬ Recoverable s := by
  obtain ⟨s, hs, hp⟩ := Lts.exists_reachable system
    (show system.init {} from rfl)
    [.connect {} none, .connect {} (some .udpStart)]
    (fun s => s.client.connectionState == .connected
      && s.client.tcpMessageReceiver == none
      && s.client.udpReceiver.isRunning == false)
    (by decide +kernel)
  simp only [Bool.and_eq_true, beq_iff_eq] at hp
  obtain ⟨⟨hstate, hnone⟩, hudp⟩ := hp
  refine ⟨s, hs, hstate, hnone, hudp, ?_⟩
  intro h
  have hrunning := h.udp
  rw [hudp] at hrunning
  cases hrunning

end Connection

end NetworkControl
