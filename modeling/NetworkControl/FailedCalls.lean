import NetworkControl.ConnectionLifecycle

/-!
# Calls that return false

What a call on the client leaves behind when it fails. `ConnectLocked`
acquires in sequence and returns early; only a receiver that does not start
cleans up after itself, so that a first connection that fails any later
leaves the UDP worker running (`connect_failed_released_iff`). Four of the
five commands touch nothing before their message is sent; `Stop` has
switched the reception off by then (`command_failed_unchanged_iff`).
-/

namespace NetworkControl

namespace GameClient

/-! ## A first connection that fails -/

/-- No UDP worker, and both sockets closed. -/
structure Released (c : GameClient) : Prop where
  worker : c.udpReceiver.isRunning = false
  udpSocket : c.udpReceiver.socketOpen = false
  tcpSocket : c.tcpSocketOpen = false

theorem disconnect_released (c : GameClient) : c.disconnect.Released :=
  ⟨rfl, rfl, rfl⟩

/-- Calls of `Connect` that failed, and where. -/
def attempts (c : GameClient) (history : List (ClientConfig × ConnectStep)) :
    GameClient :=
  history.foldl (fun c attempt =>
    (c.connect attempt.1 (some attempt.2)).2) c

end GameClient

/-- Whether an attempt that fails here leaves the TCP socket open, if it
was (not) before. -/
def ConnectStep.leavesTcpOpen (wasOpen : Bool) : ConnectStep → Bool
  | .tcpCreate => false
  | .tcpConnect | .registerSend => true
  | .udpStart | .tcpEndpoint | .udpEndpoint => wasOpen

namespace GameClient

theorem connect_failed {c : GameClient}
    (h : c.connectionState = .disconnected) (config : ClientConfig)
    (fails : ConnectStep) :
    c.connect config (some fails)
      = (false, (c.connectLocked (some fails)).2) := by
  obtain ⟨hfailed, -, -⟩ := Connection.connectLocked_failed c fails
  simp [connect, h, hfailed]

theorem connectLocked_tcpSocketOpen (c : GameClient) (fails : ConnectStep) :
    (c.connectLocked (some fails)).2.tcpSocketOpen
      = fails.leavesTcpOpen c.tcpSocketOpen := by
  cases fails <;> rfl

/-- Whatever failed before, the client is disconnected, and its TCP socket
as the attempts left it. -/
theorem attempts_state (history : List (ClientConfig × ConnectStep)) :
    ∀ {c : GameClient}, c.connectionState = .disconnected →
      (c.attempts history).connectionState = .disconnected
      ∧ (c.attempts history).tcpSocketOpen
        = (history.map Prod.snd).foldl ConnectStep.leavesTcpOpen
          c.tcpSocketOpen := by
  induction history with
  | nil => exact fun h => ⟨h, rfl⟩
  | cons attempt history ih =>
      intro c h
      obtain ⟨config, fails⟩ := attempt
      have hconnect := connect_failed h config fails
      have hstate := (Connection.connectLocked_failed c fails).2.1
      have hrest := ih (hstate.trans h)
      rw [connectLocked_tcpSocketOpen] at hrest
      rw [attempts, List.foldl_cons, hconnect]
      exact hrest

theorem connectLocked_released_iff (c : GameClient) (fails : ConnectStep) :
    (c.connectLocked (some fails)).2.Released
      ↔ fails = .udpStart ∧ c.tcpSocketOpen = false := by
  by_cases hstart : fails = .udpStart
  · subst hstart
    refine ⟨fun h => ⟨rfl, h.tcpSocket⟩, fun h => ⟨rfl, rfl, h.2⟩⟩
  · refine iff_of_false (fun h => ?_) fun h => hstart h.1
    have hrunning : (c.connectLocked
        (some fails)).2.udpReceiver.isRunning = true := by
      cases fails <;> first | rfl | exact absurd rfl hstart
    rw [h.worker] at hrunning
    cases hrunning

/-- A `Connect` that fails in the state `Disconnected` leaves nothing
behind if and only if the UDP receiver did not start and no attempt before
left the TCP socket open. -/
theorem connect_failed_released_iff {c : GameClient}
    (h : c.connectionState = .disconnected)
    (history : List (ClientConfig × ConnectStep)) (config : ClientConfig)
    (fails : ConnectStep) :
    ((c.attempts history).connect config (some fails)).1 = false
    ∧ (((c.attempts history).connect config (some fails)).2.Released
      ↔ fails = .udpStart
        ∧ (history.map Prod.snd).foldl ConnectStep.leavesTcpOpen
          c.tcpSocketOpen = false) := by
  obtain ⟨hstate, htcp⟩ := attempts_state history h
  rw [connect_failed hstate, ← htcp]
  exact ⟨rfl, connectLocked_released_iff _ fails⟩

/-- The port is taken at the third attempt, after a refused connection and
a socket that could not be made. -/
theorem connect_failed_released_third :
    ((({} : GameClient).attempts [({}, .tcpConnect), ({}, .tcpCreate)]).connect
      {} (some .udpStart)).2.Released :=
  (connect_failed_released_iff rfl _ _ _).2.mpr (by decide)

/-- The server is not there. -/
theorem connect_refused_unreleased :
    ({} : GameClient).connectionState = .disconnected
      ∧ (({} : GameClient).connect {} (some .tcpConnect)).1 = false
      ∧ (({} : GameClient).connect {}
        (some .tcpConnect)).2.udpReceiver.isRunning = true
      ∧ (({} : GameClient).connect {} (some .tcpConnect)).2.tcpSocketOpen
        = true
      ∧ ¬ (({} : GameClient).connect {} (some .tcpConnect)).2.Released :=
  ⟨rfl, rfl, rfl, rfl, fun h => nomatch h.worker⟩

/-! ## A command that fails -/

/-- What the statistics and the display depend on is as it was. -/
def LocallyUnchanged (before after : GameClient) : Prop :=
  after.udpReceiver.isActive = before.udpReceiver.isActive
    ∧ after.udpReceiver.metricsCollector = before.udpReceiver.metricsCollector

/-- A command that returns false changes nothing locally, unless it is a
`Stop` that could not be sent while packets were being taken. -/
theorem command_failed_unchanged_iff (c : GameClient) (command : Command)
    (sendOk : Bool) (now : TimePoint) :
    ((command.run c sendOk now).1 = false →
        c.LocallyUnchanged (command.run c sendOk now).2)
      ↔ ¬ (command = .stop ∧ c.isConnected = true ∧ sendOk = false
        ∧ c.udpReceiver.isActive = true) := by
  rw [Command.run]
  cases hconnected : c.isConnected with
  | false =>
      refine iff_of_true (fun _ => ⟨rfl, rfl⟩) ?_
      rintro ⟨-, h, -⟩
      cases h
  | true =>
      cases sendOk with
      | true =>
          refine iff_of_true (fun h => by cases h) ?_
          rintro ⟨-, -, h, -⟩
          cases h
      | false =>
          cases command with
          | stop =>
              have hstop : c.LocallyUnchanged
                  { c with udpReceiver := c.udpReceiver.onStop }
                  ↔ c.udpReceiver.isActive = false :=
                ⟨fun h => h.1.symm, fun h => ⟨h.symm, rfl⟩⟩
              simpa [Command.prepare] using hstop
          | _ =>
              refine iff_of_true (fun _ => ⟨rfl, rfl⟩) ?_
              rintro ⟨h, -⟩
              cases h

/-- A connected client that plays. -/
def playingClient : GameClient :=
  (Command.play.run (({} : GameClient).connect {} none).2 true 0).2

/-- Its `Stop` cannot be sent: the reception is off all the same. -/
theorem failed_stop_deactivates :
    (playingClient.stop false 0).1 = false
      ∧ playingClient.udpReceiver.isActive = true
      ∧ (playingClient.stop false 0).2.udpReceiver.isActive = false
      ∧ ¬ playingClient.LocallyUnchanged (playingClient.stop false 0).2 :=
  ⟨rfl, rfl, rfl, fun h => nomatch h.1⟩

end GameClient

end NetworkControl
