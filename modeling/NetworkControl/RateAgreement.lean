import NetworkControl.GameClient
import NetworkControl.Lts

/-!
# The data rate at both ends, across reconnections

One client and the server's side of its current connection. Commands run
whole and their sends succeed; the server processes the channel in order,
may close the connection at any time, and gives every new connection a
fresh session; the client's receiver may fail at any time and the
watchdog tears down and reconnects.

`MetricsCollector` keeps `expectedDataRate_` across all of this, the
server's `dataRate_` starts over with every session. `rates_agree` is the
agreement under `RateKept`, which excludes exactly the two ways to lose
it: reconnecting while 60 Hz is expected, and setting 60 Hz on a session
that cannot be registered.
-/

namespace NetworkControl

section

variable {F : Type} [FloatArith F]

/-- `server` is the session of the client's current connection, open or
not, and `channel` what is on its way there. -/
structure RateState (F : Type) where
  client : GameClient
  server : Control F
  isOpen : Bool
  channel : List ClientMessage
  nextSessionId : UInt64

inductive RateAction where
  | command (command : Command) (now : TimePoint)
  | serverProcess
  | serverClose
  | receiverFails
  | watchdog (retryTimeReached : Bool) (fails : Option ConnectStep)

variable (clientIp : String) (encodeDouble : ℚ → DoubleBits)

/-- A new connection: a fresh session, and the handshake on its way. -/
def RateState.reconnect (s : RateState F) (client : GameClient)
    (config : ClientConfig) : RateState F where
  client
  server := { session := ClientSession.new s.nextSessionId }
  isOpen := true
  channel := [.registerUdpPort config.udpPort]
  nextSessionId := s.nextSessionId + 1

def rateStep (s : RateState F) : RateAction → Option (RateState F)
  | .command command now =>
      if s.client.isConnected then
        let prepared := command.prepare s.client.udpReceiver
        some { s with
          client := (command.run s.client true now).2
          channel := s.channel
            ++ [command.message encodeDouble prepared now] }
      else none
  | .serverProcess =>
      match s.isOpen, s.channel with
      | true, message :: channel =>
          some { s with
            server := handleMessage clientIp s.server message
            channel }
      | _, _ => none
  | .serverClose => some { s with isOpen := false }
  | .receiverFails =>
      some { s with
        client := { s.client with
          tcpMessageReceiver :=
            s.client.tcpMessageReceiver.map ReceiverThread.fail } }
  | .watchdog retryTimeReached fails =>
      let client := s.client.watchdogIteration retryTimeReached fails
      if !s.client.isConnected && client.isConnected then
        some (s.reconnect client s.client.lastConfig)
      else some { s with client }

/-- The state in which the first `Connect` returned. -/
def rateInit (config : ClientConfig) (sessionId : UInt64) : RateState F where
  client := (({} : GameClient).connect config none).2
  server := { session := ClientSession.new sessionId }
  isOpen := true
  channel := [.registerUdpPort config.udpPort]
  nextSessionId := sessionId + 1

def rateSystem : Lts (RateState F) RateAction where
  init s := ∃ config sessionId, s = rateInit config sessionId
  step := rateStep clientIp encodeDouble

/-- A successful reconnection finds 30 Hz expected, and 60 Hz is only set
over a connection that registered a port. -/
def RateKept (s : RateState F) : RateAction → Prop
  | .watchdog true none =>
      s.client.connectionState = .reconnecting →
        s.client.udpReceiver.metricsCollector.expectedDataRate = .hz30
  | .command (.setRate dataRate) _ =>
      s.client.lastConfig.udpPort ≠ 0 ∨ dataRate = .hz30
  | _ => True

instance (s : RateState F) : (a : RateAction) → Decidable (RateKept s a)
  | .watchdog true none => inferInstanceAs (Decidable (_ → _))
  | .watchdog true (some _) | .watchdog false _ => .isTrue trivial
  | .command (.setRate _) _ => inferInstanceAs (Decidable (_ ∨ _))
  | .command .play _ | .command .pause _ | .command .stop _
  | .command .reset _ | .serverProcess | .serverClose | .receiverFails =>
      .isTrue trivial

/-! ## The server, once it has processed everything -/

/-- The server's side after every command sent so far. -/
def RateState.settled (s : RateState F) : Control F :=
  s.channel.foldl (handleMessage clientIp) s.server

/-- What the two ends agree on: the rate and whether there is a port; a
session without one has kept its initial rate. -/
structure Agrees (s : RateState F) : Prop where
  rate : s.client.isConnected = true →
    (s.settled clientIp).session.dataRate = s.client.expectedDataRate
  registered : s.client.isConnected = true →
    ((s.settled clientIp).isUdpEndpointRegistered = true
      ↔ s.client.lastConfig.udpPort ≠ 0)
  unregistered : (s.settled clientIp).isUdpEndpointRegistered = false →
    (s.settled clientIp).session.dataRate = .hz30

variable {clientIp encodeDouble}

/-- A connection's first message decides the registration. -/
theorem agrees_fresh {s : RateState F} {session : ClientSession F}
    (hserver : s.server = { session }) (hrate : session.dataRate = .hz30)
    (hchannel : s.channel = [.registerUdpPort s.client.lastConfig.udpPort])
    (hexpected : s.client.expectedDataRate = .hz30) :
    Agrees clientIp s := by
  have hsettled : s.settled clientIp = handleMessage clientIp { session }
      (.registerUdpPort s.client.lastConfig.udpPort) := by
    rw [RateState.settled, hserver, hchannel]
    rfl
  by_cases hport : s.client.lastConfig.udpPort = 0
  · constructor <;>
      simp [hsettled, handleMessage, registerUdpEndpoint, hport, hrate,
        hexpected]
  · constructor <;>
      simp [hsettled, handleMessage, registerUdpEndpoint, hport, hrate,
        hexpected]

theorem agrees_init (config : ClientConfig) (sessionId : UInt64) :
    Agrees clientIp (rateInit (F := F) config sessionId) :=
  agrees_fresh rfl rfl rfl rfl

theorem agrees_command {s : RateState F} (hs : Agrees clientIp s)
    {command : Command} {now : TimePoint}
    (hconnected : s.client.isConnected = true)
    (hok : RateKept s (.command command now)) :
    Agrees clientIp { s with
      client := (command.run s.client true now).2
      channel := s.channel ++ [command.message encodeDouble
        (command.prepare s.client.udpReceiver) now] } := by
  obtain ⟨hreg, hrate⟩ := handleMessage_command clientIp encodeDouble
    (command.prepare s.client.udpReceiver) now (s.settled clientIp) command
  have hexpected := Command.run_expectedDataRate s.client command now hconnected
  obtain ⟨udpReceiver, hclient⟩ :=
    Command.run_receiver s.client command true now
  have hconfig := congrArg GameClient.lastConfig hclient
  have hsettled : RateState.settled clientIp { s with
      client := (command.run s.client true now).2
      channel := s.channel ++ [command.message encodeDouble
        (command.prepare s.client.udpReceiver) now] }
      = handleMessage clientIp (s.settled clientIp)
          (command.message encodeDouble
            (command.prepare s.client.udpReceiver) now) := by
    rw [RateState.settled, List.foldl_append]
    rfl
  refine ⟨?_, ?_, ?_⟩
  · intro _
    rw [hsettled, hrate, hexpected]
    split
    · rw [hs.rate hconnected]
    · rename_i hflag
      have hflag' := Bool.eq_false_of_not_eq_true hflag
      have hport := (hs.registered hconnected).not.mp hflag
      -- unregistered, so only the rate the session was born with is set
      cases command with
      | setRate dataRate =>
          obtain rfl := hok.resolve_left hport
          exact hs.unregistered hflag'
      | _ => exact hs.rate hconnected
  · intro _
    rw [hsettled, hreg, hconfig]
    exact hs.registered hconnected
  · intro hflag
    rw [hsettled, hreg] at hflag
    rw [hsettled, hrate, hflag]
    exact hs.unregistered hflag

theorem agrees_watchdog {s t : RateState F} (hs : Agrees clientIp s)
    {retryTimeReached : Bool} {fails : Option ConnectStep}
    (hok : RateKept s (.watchdog retryTimeReached fails))
    (h : rateStep clientIp encodeDouble s (.watchdog retryTimeReached fails)
      = some t) : Agrees clientIp t := by
  simp only [rateStep] at h
  rcases s.client.watchdogIteration_cases retryTimeReached fails with hsame
    | ⟨hstate, hdown⟩ | ⟨hstate, rfl, hretry⟩
  · rw [hsame, if_neg (by simp)] at h
    obtain rfl := Option.some.inj h
    exact hs
  · rw [hdown, if_neg (by simp [GameClient.isConnected])] at h
    obtain rfl := Option.some.inj h
    exact ⟨fun hc => absurd hc (by simp [GameClient.isConnected]),
      fun hc => absurd hc (by simp [GameClient.isConnected]),
      hs.unregistered⟩
  · have hafter := s.client.connectLocked_connectionState fails
    have hbefore : s.client.isConnected = false := by
      simp [GameClient.isConnected, hstate]
    rw [hretry] at h
    cases fails with
    | none =>
        rw [if_pos (by
          rw [hbefore, GameClient.isConnected, hafter]; rfl)] at h
        obtain rfl := Option.some.inj h
        exact agrees_fresh rfl rfl
          (by rw [RateState.reconnect, GameClient.connectLocked_lastConfig])
          (by
            rw [RateState.reconnect, GameClient.connectLocked_expectedDataRate]
            exact hok hstate)
    | some step =>
        have hstill : (s.client.connectLocked (some step)).2.isConnected
            = false := by
          rw [GameClient.isConnected, hafter]
          simp [hstate]
        rw [if_neg (by simp [hbefore, hstill])] at h
        obtain rfl := Option.some.inj h
        exact ⟨fun hc => absurd hc (by simp [hstill]),
          fun hc => absurd hc (by simp [hstill]), hs.unregistered⟩

theorem agrees_step {s t : RateState F} {a : RateAction}
    (hs : Agrees clientIp s) (hok : RateKept s a)
    (h : rateStep clientIp encodeDouble s a = some t) : Agrees clientIp t := by
  cases a with
  | command command now =>
      simp only [rateStep] at h
      split at h
      · rename_i hconnected
        obtain rfl := Option.some.inj h
        exact agrees_command hs hconnected hok
      · cases h
  | serverProcess =>
      simp only [rateStep] at h
      split at h
      · rename_i message channel hopen hchannel
        obtain rfl := Option.some.inj h
        have hsettled : RateState.settled clientIp { s with
            server := handleMessage clientIp s.server message
            channel } = s.settled clientIp := by
          rw [RateState.settled, RateState.settled, hchannel, List.foldl_cons]
        exact ⟨by rw [hsettled]; exact hs.rate,
          by rw [hsettled]; exact hs.registered,
          by rw [hsettled]; exact hs.unregistered⟩
      · cases h
  | serverClose =>
      obtain rfl := Option.some.inj h
      exact ⟨hs.rate, hs.registered, hs.unregistered⟩
  | receiverFails =>
      obtain rfl := Option.some.inj h
      exact ⟨hs.rate, hs.registered, hs.unregistered⟩
  | watchdog retryTimeReached fails => exact agrees_watchdog hs hok h

/-- In every run that keeps to `RateKept`: whenever the client is
connected and the server has processed everything sent, the rate the
client measures against is the rate the server sends at. -/
theorem rates_agree {s : RateState F}
    (h : (rateSystem clientIp encodeDouble).ReachableUnder RateKept s)
    (hconnected : s.client.isConnected = true) (hprocessed : s.channel = []) :
    s.client.udpReceiver.metricsCollector.expectedDataRate
      = s.server.session.dataRate := by
  have hagrees : Agrees clientIp s := by
    refine h.invariant ?_ fun _ _ _ hs hok hstep => agrees_step hs hok hstep
    rintro _ ⟨config, sessionId, rfl⟩
    exact agrees_init config sessionId
  have hrate := hagrees.rate hconnected
  rw [RateState.settled, hprocessed] at hrate
  exact hrate.symm

end

/-- 60 Hz set and taken back before the connection is lost. -/
theorem rates_agree_after_reconnect :
    ∃ s : RateState Float32, s.client.isConnected = true ∧ s.channel = []
      ∧ s.nextSessionId = 3
      ∧ s.client.udpReceiver.metricsCollector.expectedDataRate
        = s.server.session.dataRate := by
  obtain ⟨s, hs, hp⟩ := Lts.exists_reachableUnder
    (rateSystem "127.0.0.1" fun _ => 0) RateKept
    (s := rateInit (F := Float32) {} 1) ⟨{}, 1, rfl⟩
    [.serverProcess, .command (.setRate .hz60) 0, .serverProcess,
      .command (.setRate .hz30) 0, .serverProcess, .serverClose,
      .receiverFails, .watchdog false none, .watchdog true none,
      .serverProcess]
    (fun s => s.client.isConnected && s.channel.isEmpty
      && s.nextSessionId == 3)
    (by decide +kernel)
  simp only [Bool.and_eq_true, List.isEmpty_iff, beq_iff_eq] at hp
  exact ⟨s, hp.1.1, hp.1.2, hp.2, rates_agree hs hp.1.1 hp.1.2⟩

/-- 60 Hz set, the connection lost and the watchdog back: the client
measures against 60 Hz what the new session sends at 30 Hz. -/
theorem rates_differ_after_reconnect :
    ∃ s : RateState Float32,
      (rateSystem "127.0.0.1" fun _ => 0).Reachable s
      ∧ s.client.isConnected = true ∧ s.channel = []
      ∧ s.client.udpReceiver.metricsCollector.expectedDataRate = .hz60
      ∧ s.server.session.dataRate = .hz30 := by
  obtain ⟨s, hs, hp⟩ := Lts.exists_reachable
    (rateSystem "127.0.0.1" fun _ => 0)
    (s := rateInit (F := Float32) {} 1) ⟨{}, 1, rfl⟩
    [.serverProcess, .command (.setRate .hz60) 0, .serverProcess,
      .serverClose, .receiverFails, .watchdog false none,
      .watchdog true none, .serverProcess]
    (fun s => s.client.isConnected && s.channel.isEmpty
      && s.client.udpReceiver.metricsCollector.expectedDataRate == .hz60
      && s.server.session.dataRate == .hz30)
    (by decide +kernel)
  simp only [Bool.and_eq_true, List.isEmpty_iff, beq_iff_eq] at hp
  exact ⟨s, hs, hp.1.1.1, hp.1.1.2, hp.1.2, hp.2⟩

end NetworkControl
