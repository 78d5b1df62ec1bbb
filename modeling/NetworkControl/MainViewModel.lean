import NetworkControl.Steering

/-!
# MainViewModel

`Gui/ViewModels/MainViewModel.cs`: the buttons, the sliders, and the play
state the window shows. Nothing tells the client the state of its session,
so the view model keeps its own and sets it when a command was sent.

The server guards what the window does not: `Pause` does nothing to a
session that is stopped. `playState_mirrors_iff` says for which sequences
of buttons the two states are the same in the end.
-/

namespace NetworkControl

open FloatArith

/-! ## The view model -/

inductive PlayState where
  | stopped
  | playing
  | paused
deriving DecidableEq, Repr

def PlayState.toSessionState : PlayState → SessionState
  | .stopped => .stopped
  | .playing => .playing
  | .paused => .paused

/-- The sliders are `double`s. -/
structure MainViewModel where
  client : GameClient := {}
  isConnected : Bool := false
  playState : PlayState := .stopped
  isRate60 : Bool := false
  throttle : ℚ := 0
  yaw : ℚ := 0
  previousConnectionState : ConnectionState := .disconnected

/-- The buttons that send a command. -/
inductive Button where
  | play
  | pause
  | stop
  | reset
  | setRate30
  | setRate60
deriving DecidableEq, Repr

def Button.command : Button → Command
  | .play => .play
  | .pause => .pause
  | .stop => .stop
  | .reset => .reset
  | .setRate30 => .setRate .hz30
  | .setRate60 => .setRate .hz60

namespace MainViewModel

def setPlayState (vm : MainViewModel) (state : PlayState) : MainViewModel :=
  { vm with playState := state }

def setDataRate60 (vm : MainViewModel) (isRate60 : Bool) : MainViewModel :=
  { vm with isRate60 }

def applyConnectionState (vm : MainViewModel) (state : ConnectionState) :
    MainViewModel :=
  let isConnected := state == ConnectionState.connected
  let justConnected :=
    isConnected && vm.previousConnectionState != .connected
  let vm := { vm with isConnected }
  let vm :=
    if justConnected then (vm.setPlayState .stopped).setDataRate60 false
    else vm
  { vm with previousConnectionState := state }

def sendControlInput (vm : MainViewModel) : MainViewModel :=
  if vm.isConnected then
    let throttle : Float32 := ofRat vm.throttle
    let yaw : Float32 := ofRat vm.yaw
    { vm with client := (vm.client.sendControlInput throttle yaw).2 }
  else vm

def setThrottle (vm : MainViewModel) (value : ℚ) : MainViewModel :=
  if vm.throttle = value then vm
  else { vm with throttle := value }.sendControlInput

def setYaw (vm : MainViewModel) (value : ℚ) : MainViewModel :=
  if vm.yaw = value then vm
  else { vm with yaw := value }.sendControlInput

def stop (vm : MainViewModel) (sendOk : Bool) (now : TimePoint) :
    MainViewModel :=
  let (sent, client) := vm.client.stop sendOk now
  let vm := { vm with client }
  if !sent then vm
  else ((vm.setPlayState .stopped).setThrottle 0).setYaw 0

/-- What the `RelayCommand` of a button does. -/
def execute (vm : MainViewModel) (sendOk : Bool) (now : TimePoint) :
    Button → MainViewModel
  | .play =>
      let (sent, client) := vm.client.play sendOk now
      let vm := { vm with client }
      if sent then vm.setPlayState .playing else vm
  | .pause =>
      let (sent, client) := vm.client.pause sendOk now
      let vm := { vm with client }
      if sent then vm.setPlayState .paused else vm
  | .stop => vm.stop sendOk now
  | .reset => { vm with client := (vm.client.reset sendOk now).2 }
  | .setRate30 =>
      let (sent, client) := vm.client.setRate .hz30 sendOk now
      let vm := { vm with client }
      if sent then vm.setDataRate60 false else vm
  | .setRate60 =>
      let (sent, client) := vm.client.setRate .hz60 sendOk now
      let vm := { vm with client }
      if sent then vm.setDataRate60 true else vm

/-! ## What the window is driven by -/

/-- A button pressed, its message sent; a slider moved; the timer. -/
inductive Event where
  | press (button : Button) (now : TimePoint)
  | throttle (value : ℚ)
  | yaw (value : ℚ)
  | poll

def Event.button : Event → Option Button
  | press button _ => some button
  | _ => none

/-- A button is enabled while the window shows `Connected`. `Poll` is
modelled up to the entities. -/
def handle (vm : MainViewModel) : Event → MainViewModel
  | .press button now =>
      if vm.isConnected then vm.execute true now button else vm
  | .throttle value => vm.setThrottle value
  | .yaw value => vm.setYaw value
  | .poll => vm.applyConnectionState vm.client.connectionState

/-- What an event sends on the control connection. -/
def message (encodeDouble : ℚ → DoubleBits) (vm : MainViewModel) :
    Event → Option ClientMessage
  | .press button now =>
      if vm.isConnected ∧ vm.client.isConnected then
        some (button.command.message encodeDouble vm.client.udpReceiver now)
      else none
  | _ => none

def run (vm : MainViewModel) (events : List Event) : MainViewModel :=
  events.foldl handle vm

/-- The messages of a run, in order. -/
def messages (encodeDouble : ℚ → DoubleBits) (vm : MainViewModel) :
    List Event → List ClientMessage
  | [] => []
  | event :: events =>
      (vm.message encodeDouble event).toList
        ++ messages encodeDouble (vm.handle event) events

end MainViewModel

/-! ## One step of either side -/

namespace Button

/-- What a button makes of the state the window shows. -/
def display (state : PlayState) : Button → PlayState
  | .play => .playing
  | .pause => .paused
  | .stop => .stopped
  | _ => state

/-- What its command makes of the session's. -/
def obey (state : SessionState) : Button → SessionState
  | .play => .playing
  | .pause => if state = .playing then .paused else state
  | .stop => .stopped
  | _ => state

end Button

namespace MainViewModel

/-- Connected, and the window has seen it. -/
structure Live (vm : MainViewModel) : Prop where
  shown : vm.isConnected = true
  connected : vm.client.connectionState = .connected
  previous : vm.previousConnectionState = .connected

/-- Only the client, the sliders and the display of the rate differ. -/
structure SameState (vm vm' : MainViewModel) : Prop where
  isConnected : vm'.isConnected = vm.isConnected
  connectionState : vm'.client.connectionState = vm.client.connectionState
  previous : vm'.previousConnectionState = vm.previousConnectionState
  playState : vm'.playState = vm.playState

variable {vm vm' : MainViewModel}

theorem Live.same (h : vm.Live) (hsame : vm.SameState vm') : vm'.Live :=
  ⟨hsame.isConnected.trans h.shown, hsame.connectionState.trans h.connected,
    hsame.previous.trans h.previous⟩

theorem sendControlInput_sameState (vm : MainViewModel) :
    vm.SameState vm.sendControlInput := by
  unfold sendControlInput
  split
  · refine ⟨rfl, ?_, rfl, rfl⟩
    simp only [GameClient.sendControlInput]
    split
    · rfl
    · split <;> rfl
  · exact ⟨rfl, rfl, rfl, rfl⟩

theorem setThrottle_sameState (vm : MainViewModel) (value : ℚ) :
    vm.SameState (vm.setThrottle value) := by
  unfold setThrottle
  split
  · exact ⟨rfl, rfl, rfl, rfl⟩
  · obtain ⟨hshown, hstate, hprevious, hplay⟩ :=
      sendControlInput_sameState { vm with throttle := value }
    exact ⟨hshown, hstate, hprevious, hplay⟩

theorem setYaw_sameState (vm : MainViewModel) (value : ℚ) :
    vm.SameState (vm.setYaw value) := by
  unfold setYaw
  split
  · exact ⟨rfl, rfl, rfl, rfl⟩
  · obtain ⟨hshown, hstate, hprevious, hplay⟩ :=
      sendControlInput_sameState { vm with yaw := value }
    exact ⟨hshown, hstate, hprevious, hplay⟩

/-- A command that is sent returns true and leaves the client connected. -/
theorem run_connected {c : GameClient} (h : c.connectionState = .connected)
    (command : Command) (now : TimePoint) :
    (command.run c true now).1 = true
      ∧ (command.run c true now).2.connectionState = .connected := by
  rw [Command.run_sent (GameClient.isConnected_iff.mpr h)]
  exact ⟨rfl, h⟩

/-- A button whose command is sent. -/
theorem execute_sent (h : vm.client.connectionState = .connected)
    (button : Button) (hbutton : button ≠ .stop) (now : TimePoint) :
    ∃ isRate60, vm.execute true now button
      = { vm with
          client := (button.command.run vm.client true now).2
          playState := button.display vm.playState
          isRate60 } := by
  have hsent := (run_connected h button.command now).1
  cases button with
  | stop => exact absurd rfl hbutton
  | play =>
      refine ⟨vm.isRate60, ?_⟩
      rw [execute, GameClient.play]
      simp only [Button.command] at hsent ⊢
      simp only [hsent, if_true]
      rfl
  | pause =>
      refine ⟨vm.isRate60, ?_⟩
      rw [execute, GameClient.pause]
      simp only [Button.command] at hsent ⊢
      simp only [hsent, if_true]
      rfl
  | reset => exact ⟨vm.isRate60, rfl⟩
  | setRate30 =>
      refine ⟨false, ?_⟩
      rw [execute, GameClient.setRate]
      simp only [Button.command] at hsent ⊢
      simp only [hsent, if_true]
      rfl
  | setRate60 =>
      refine ⟨true, ?_⟩
      rw [execute, GameClient.setRate]
      simp only [Button.command] at hsent ⊢
      simp only [hsent, if_true]
      rfl

theorem execute_live (h : vm.Live) (button : Button) (now : TimePoint) :
    (vm.execute true now button).Live
      ∧ (vm.execute true now button).playState
        = button.display vm.playState := by
  obtain ⟨hsent, hstate⟩ := run_connected h.connected button.command now
  by_cases hbutton : button = .stop
  · subst hbutton
    let stopped : MainViewModel :=
      { vm with
        client := (vm.client.stop true now).2
        playState := .stopped }
    have hstopped : stopped.Live := ⟨h.shown, hstate, h.previous⟩
    have hthrottle := setThrottle_sameState stopped 0
    have hyaw := setYaw_sameState (stopped.setThrottle 0) 0
    have hexecute : vm.execute true now .stop
        = (stopped.setThrottle 0).setYaw 0 := by
      have hok : (vm.client.stop true now).1 = true := hsent
      rw [execute, stop]
      simp only [hok, Bool.not_true, Bool.false_eq_true, if_false]
      rfl
    rw [hexecute]
    exact ⟨(hstopped.same hthrottle).same hyaw,
      hyaw.playState.trans hthrottle.playState⟩
  · obtain ⟨isRate60, hexecute⟩ := execute_sent h.connected button hbutton now
    rw [hexecute]
    exact ⟨⟨h.shown, hstate, h.previous⟩, rfl⟩

/-- Whatever happens to the window, only the buttons change its state. -/
theorem handle_live (h : vm.Live) (event : Event) :
    (vm.handle event).Live
      ∧ (vm.handle event).playState
        = event.button.elim vm.playState (Button.display vm.playState) := by
  cases event with
  | press button now =>
      rw [handle, if_pos h.shown]
      exact execute_live h button now
  | throttle value =>
      have hsame := setThrottle_sameState vm value
      exact ⟨h.same hsame, hsame.playState⟩
  | yaw value =>
      have hsame := setYaw_sameState vm value
      exact ⟨h.same hsame, hsame.playState⟩
  | poll =>
      have hpoll : vm.handle .poll = vm := by
        obtain ⟨hshown, hconnected, hprevious⟩ := h
        cases vm
        simp only at hshown hconnected hprevious
        simp [handle, applyConnectionState, hshown, hconnected, hprevious]
      rw [hpoll]
      exact ⟨h, rfl⟩

theorem run_playState (events : List Event) : ∀ {vm : MainViewModel},
    vm.Live → (vm.run events).playState
      = (events.filterMap Event.button).foldl Button.display vm.playState := by
  induction events with
  | nil => exact fun _ => rfl
  | cons event events ih =>
      intro vm h
      obtain ⟨hlive, hstate⟩ := handle_live h event
      rw [run, List.foldl_cons, ← run, ih hlive, hstate]
      cases hbutton : event.button with
      | none => rw [List.filterMap_cons_none hbutton]; rfl
      | some button => rw [List.filterMap_cons_some hbutton]; rfl

/-- The first `Poll` of a new connection. -/
theorem justConnected_live (hnew : vm.previousConnectionState ≠ .connected)
    (h : vm.client.connectionState = .connected) :
    (vm.handle .poll).Live ∧ (vm.handle .poll).playState = .stopped := by
  have hpoll : vm.handle .poll
      = { vm with
          isConnected := true
          playState := .stopped
          isRate60 := false
          previousConnectionState := .connected } := by
    simp [handle, applyConnectionState, h, hnew, setPlayState, setDataRate60]
  rw [hpoll]
  exact ⟨⟨rfl, h, rfl⟩, rfl⟩

end MainViewModel

/-! ## The session's side -/

/-- What a message makes of the state of a registered session. -/
def ClientMessage.obey (state : SessionState) : ClientMessage → SessionState
  | .play => .playing
  | .pause => if state = .playing then .paused else state
  | .stop _ => .stopped
  | _ => state

namespace SessionCall

variable {F : Type}

def message? : SessionCall F → Option ClientMessage
  | .message m => some m
  | .udpThread _ => none

/-- The messages among some calls. -/
def messages (calls : List (SessionCall F)) : List ClientMessage :=
  calls.filterMap message?

variable [FloatArith F]

theorem run_state (clientIp : String) (s : ClientSession F)
    (call : SessionCall F) :
    (call.run clientIp s).state
      = call.message?.elim s.state (ClientMessage.obey s.state) := by
  cases call with
  | message m =>
      cases m with
      | play =>
          cases hstate : s.state <;>
            simp [run, ClientMessage.runOn, ClientSession.play, message?,
              ClientMessage.obey, hstate]
      | pause =>
          simp only [run, ClientMessage.runOn, ClientSession.pause, message?,
            Option.elim, ClientMessage.obey]
          split <;> rfl
      | setRate dataRateHz =>
          simp only [run, ClientMessage.runOn, ClientSession.setRate]
          split
          · rfl
          · split <;> rfl
      | _ => rfl
  | udpThread call =>
      cases call with
      | applyControlInput sequenceId throttle yaw =>
          simp only [run, TcpControlServer.runUdpThreadCall,
            ClientSession.applyControlInput]
          split <;> rfl
      | _ => rfl

/-- The UDP threads do not touch the state. -/
theorem runAll_state (clientIp : String) (calls : List (SessionCall F)) :
    ∀ s : ClientSession F, (runAll clientIp s calls).state
      = (messages calls).foldl ClientMessage.obey s.state := by
  induction calls with
  | nil => exact fun s => rfl
  | cons call calls ih =>
      intro s
      rw [runAll, List.foldl_cons, ← runAll, ih, run_state]
      cases hmessage : call.message? with
      | none =>
          rw [messages, messages, List.filterMap_cons_none hmessage]
          rfl
      | some m =>
          rw [messages, messages, List.filterMap_cons_some hmessage]
          rfl

end SessionCall

namespace MainViewModel

/-- The server obeys the buttons, since what they send says the same. -/
theorem messages_obeyed (encodeDouble : ℚ → DoubleBits)
    (events : List Event) : ∀ {vm : MainViewModel} (state : SessionState),
    vm.Live → (vm.messages encodeDouble events).foldl ClientMessage.obey state
      = (events.filterMap Event.button).foldl Button.obey state := by
  induction events with
  | nil => exact fun _ _ => rfl
  | cons event events ih =>
      intro vm state h
      have hrest := fun state => ih state (handle_live h event).1
      rw [messages, List.foldl_append, hrest]
      cases event with
      | press button now =>
          have hconnected : vm.client.isConnected = true :=
            GameClient.isConnected_iff.mpr h.connected
          rw [message, if_pos ⟨h.shown, hconnected⟩]
          cases button <;> rfl
      | _ => rfl

end MainViewModel

/-! ## Both sides of a sequence of buttons -/

namespace Button

/-- The buttons pressed after the last `Stop`. -/
def sinceStop (buttons : List Button) : List Button :=
  buttons.rtakeWhile fun button => button != .stop

/-- Where the two states are, after a last `Stop` and what followed it. -/
inductive Together (buttons : List Button) (shown : PlayState)
    (state : SessionState) : Prop where
  | idle : .play ∉ sinceStop buttons → .pause ∉ sinceStop buttons →
      shown = .stopped → state = .stopped → Together buttons shown state
  | played : .play ∈ sinceStop buttons → state ≠ .stopped →
      shown.toSessionState = state → Together buttons shown state
  | pausedOnly : .play ∉ sinceStop buttons → .pause ∈ sinceStop buttons →
      shown = .paused → state = .stopped → Together buttons shown state

theorem sinceStop_concat (buttons : List Button) (button : Button) :
    sinceStop (buttons ++ [button])
      = if button = .stop then [] else sinceStop buttons ++ [button] := by
  rw [sinceStop, List.rtakeWhile_concat]
  cases button <;> rfl

theorem together (buttons : List Button) :
    Together buttons (buttons.foldl display .stopped)
      (buttons.foldl obey .stopped) := by
  induction buttons using List.reverseRecOn with
  | nil => exact .idle (nomatch ·) (nomatch ·) rfl rfl
  | append_singleton buttons button ih =>
      rw [List.foldl_append, List.foldl_append]
      have hsince := sinceStop_concat buttons button
      generalize buttons.foldl display .stopped = shown at ih ⊢
      generalize buttons.foldl obey .stopped = state at ih ⊢
      cases button with
      | stop =>
          rw [if_pos rfl] at hsince
          exact .idle (by rw [hsince]; exact List.not_mem_nil)
            (by rw [hsince]; exact List.not_mem_nil) rfl rfl
      | play =>
          exact .played (by rw [hsince]; simp) (by simp [obey]) rfl
      | pause =>
          cases ih with
          | idle hplay hpause hshown hstate =>
              refine .pausedOnly ?_ ?_ rfl ?_
              · rw [hsince]; simpa using hplay
              · rw [hsince]; simp
              · simp [obey, hstate]
          | played hplay hstate heq =>
              have hpaused : obey state .pause = .paused := by
                cases state <;> first | rfl | exact absurd rfl hstate
              refine .played ?_ ?_ ?_
              · rw [hsince]; simpa using hplay
              · simp [hpaused]
              · simp [hpaused, display, PlayState.toSessionState]
          | pausedOnly hplay hpause hshown hstate =>
              refine .pausedOnly ?_ ?_ rfl ?_
              · rw [hsince]; simpa using hplay
              · rw [hsince]; simp
              · simp [obey, hstate]
      | _ =>
          cases ih with
          | idle hplay hpause hshown hstate =>
              exact .idle (by rw [hsince]; simpa using hplay)
                (by rw [hsince]; simpa using hpause) hshown hstate
          | played hplay hstate heq =>
              exact .played (by rw [hsince]; simpa using hplay) hstate heq
          | pausedOnly hplay hpause hshown hstate =>
              exact .pausedOnly (by rw [hsince]; simpa using hplay)
                (by rw [hsince]; simpa using hpause) hshown hstate

theorem display_eq_obey_iff (buttons : List Button) :
    (buttons.foldl display .stopped).toSessionState
        = buttons.foldl obey .stopped
      ↔ (.pause ∈ sinceStop buttons → .play ∈ sinceStop buttons) := by
  cases together buttons with
  | idle hplay hpause hshown hstate =>
      rw [hshown, hstate]
      exact iff_of_true rfl fun h => absurd h hpause
  | played hplay hstate heq => exact iff_of_true heq fun _ => hplay
  | pausedOnly hplay hpause hshown hstate =>
      rw [hshown, hstate]
      exact iff_of_false (fun h => nomatch h) fun h => hplay (h hpause)

end Button

namespace MainViewModel

/-- The window shows the state of the session, once that has obeyed every
message, if and only if there was no `Pause` since the last `Stop`, or the
connection, without a `Play`. -/
theorem playState_mirrors_iff {F : Type} [FloatArith F] {vm : MainViewModel}
    (hnew : vm.previousConnectionState ≠ .connected)
    (hclient : vm.client.connectionState = .connected)
    (encodeDouble : ℚ → DoubleBits) (events : List Event) (clientIp : String)
    {session : ClientSession F} (hsession : session.state = .stopped)
    (calls : List (SessionCall F))
    (hcalls : SessionCall.messages calls
      = (vm.handle .poll).messages encodeDouble events) :
    ((vm.handle .poll).run events).playState.toSessionState
        = (SessionCall.runAll clientIp session calls).state
      ↔ (.pause ∈ Button.sinceStop (events.filterMap Event.button) →
        .play ∈ Button.sinceStop (events.filterMap Event.button)) := by
  obtain ⟨hlive, hstopped⟩ := justConnected_live hnew hclient
  rw [run_playState events hlive, hstopped, SessionCall.runAll_state, hcalls,
    hsession, messages_obeyed encodeDouble events _ hlive]
  exact Button.display_eq_obey_iff _

/-- The window of a client that has just connected. -/
def opened : MainViewModel :=
  { client := (({} : GameClient).connect {} none).2 }

/-- What a user does, and what the session receives of it, with calls of
the UDP threads in between. -/
def replay : List Event :=
  [.press .play 0, .press .reset 0, .press .stop 0, .poll, .press .play 0,
    .throttle 1, .press .pause 0]

def replayed : List (SessionCall ℚ) :=
  [.message .play, .udpThread (.stepPhysics (1 / 60)), .message .reset,
    .message quietStop, .message .play,
    .udpThread (.applyControlInput 1 1 0), .message .pause]

/-- The session follows the window into a second play and its pause. -/
theorem playState_mirrors_replayed :
    ((opened.handle .poll).run replay).playState = .paused
      ∧ (SessionCall.runAll "127.0.0.1" (.new 1) replayed).state
        = .paused := by
  have hwindow : ((opened.handle .poll).run replay).playState = .paused := rfl
  have hnew : opened.previousConnectionState ≠ .connected := by decide
  have hstopped : (.new 1 : ClientSession ℚ).state = .stopped := rfl
  have hmirrors := (playState_mirrors_iff hnew rfl (fun _ => 0) replay
    "127.0.0.1" hstopped replayed rfl).mpr (by decide)
  rw [hwindow] at hmirrors
  exact ⟨hwindow, hmirrors.symm⟩

/-- `Pause` before the first `Play`: the window shows `Paused`. -/
theorem playState_paused_alone :
    ∃ (events : List Event) (calls : List (SessionCall ℚ)),
      SessionCall.messages calls
        = (opened.handle .poll).messages (fun _ => 0) events
      ∧ ((opened.handle .poll).run events).playState = .paused
      ∧ (SessionCall.runAll "127.0.0.1" (.new 1) calls).state = .stopped :=
  ⟨[.press .pause 0], [.message .pause], rfl, rfl, rfl⟩

end MainViewModel

end NetworkControl
