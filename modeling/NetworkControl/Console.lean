import NetworkControl.Steering

/-!
# The console client

`RunClientControlLoop` of `Client/Main.cpp`. Every control input carries
both axes, so the loop remembers what was last given for each and sends it
along with the other.

What it remembers should be what the session flies by. It is, right after
an input; but `reset` clears what is remembered and not the session's
controls, and `stop` the reverse. `controls_mirror_iff` says when the two
agree after any sequence of commands.
-/

namespace NetworkControl

open FloatArith

/-! ## The loop -/

/-- A line entered; `display` is one that only prints. -/
inductive ConsoleCommand (F : Type) where
  | play
  | pause
  | stop
  | reset
  | rate30
  | rate60
  | thrust (value : F)
  | yaw (value : F)
  | display

/-- `stof` is `std::stof`, `none` where it throws. -/
def ConsoleCommand.parse {F : Type} (stof : String → Option F)
    (input : String) : ConsoleCommand F :=
  if input = "play" then .play
  else if input = "pause" then .pause
  else if input = "stop" then .stop
  else if input = "reset" then .reset
  else if input = "30" then .rate30
  else if input = "60" then .rate60
  else if input.startsWith "thrust " then
    match stof (input.drop 7).toString with
    | none => .display
    | some value => .thrust value
  else if input.startsWith "yaw " then
    match stof (input.drop 4).toString with
    | none => .display
    | some value => .yaw value
  else .display

structure Console (F : Type) where
  client : GameClient
  lastThrottle : F
  lastYaw : F

namespace Console

variable {F : Type} [FloatArith F] (encodeDouble : ℚ → DoubleBits)

/-- A command of the client, and what its message brings to the session. -/
def send (c : Console F) (command : Command) (sendOk : Bool)
    (now : TimePoint) : Bool × Console F × Option (SessionCall F) :=
  let (sent, client) := command.run c.client sendOk now
  (sent, { c with client },
    if sent then
      some (.message (command.message encodeDouble c.client.udpReceiver now))
    else none)

/-- Both axes, as remembered. -/
def sendControlInput (c : Console F) : Console F × Option (SessionCall F) :=
  let (input, client) := c.client.sendControlInput c.lastThrottle c.lastYaw
  ({ c with client }, input.map fun input =>
    .udpThread (.applyControlInput input.sequenceId input.throttle input.yaw))

/-- One iteration of the loop, and what it brings to the session. -/
def execute (c : Console F) (sendOk : Bool) (now : TimePoint) :
    ConsoleCommand F → Console F × Option (SessionCall F)
  | .play => (c.send encodeDouble .play sendOk now).2
  | .pause => (c.send encodeDouble .pause sendOk now).2
  | .stop => (c.send encodeDouble .stop sendOk now).2
  | .reset =>
      let (sent, c, call) := c.send encodeDouble .reset sendOk now
      if !sent then (c, call)
      else ({ c with lastThrottle := ofRat 0, lastYaw := ofRat 0 }, call)
  | .rate30 => (c.send encodeDouble (.setRate .hz30) sendOk now).2
  | .rate60 => (c.send encodeDouble (.setRate .hz60) sendOk now).2
  | .thrust value => { c with lastThrottle := value }.sendControlInput
  | .yaw value => { c with lastYaw := value }.sendControlInput
  | .display => (c, none)

end Console

/-! ## What was given, as the commands have it -/

namespace ConsoleCommand

section

variable {F : Type}

def isInput : ConsoleCommand F → Bool
  | .thrust _ => true
  | .yaw _ => true
  | _ => false

def isStop : ConsoleCommand F → Bool
  | .stop => true
  | _ => false

def isReset : ConsoleCommand F → Bool
  | .reset => true
  | _ => false

/-- The commands up to the last input, none if there was none. -/
def throughInput (commands : List (ConsoleCommand F)) :
    List (ConsoleCommand F) :=
  commands.rdropWhile fun command => !command.isInput

/-- The commands after the last input. -/
def sinceInput (commands : List (ConsoleCommand F)) :
    List (ConsoleCommand F) :=
  commands.rtakeWhile fun command => !command.isInput

def stopSince (commands : List (ConsoleCommand F)) : Bool :=
  (sinceInput commands).any isStop

def resetSince (commands : List (ConsoleCommand F)) : Bool :=
  (sinceInput commands).any isReset

theorem sinceInput_concat (commands : List (ConsoleCommand F))
    (command : ConsoleCommand F) :
    sinceInput (commands ++ [command])
      = if command.isInput then [] else sinceInput commands ++ [command] := by
  rw [sinceInput, List.rtakeWhile_concat]
  cases command.isInput <;> rfl

theorem throughInput_concat (commands : List (ConsoleCommand F))
    (command : ConsoleCommand F) :
    throughInput (commands ++ [command])
      = if command.isInput then commands ++ [command]
        else throughInput commands := by
  rw [throughInput, List.rdropWhile_concat]
  cases command.isInput <;> rfl

theorem stopSince_concat (commands : List (ConsoleCommand F))
    (command : ConsoleCommand F) :
    stopSince (commands ++ [command])
      = (!command.isInput && (stopSince commands || command.isStop)) := by
  rw [stopSince, sinceInput_concat]
  cases hinput : command.isInput <;> simp [stopSince]

theorem resetSince_concat (commands : List (ConsoleCommand F))
    (command : ConsoleCommand F) :
    resetSince (commands ++ [command])
      = (!command.isInput && (resetSince commands || command.isReset)) := by
  rw [resetSince, sinceInput_concat]
  cases hinput : command.isInput <;> simp [resetSince]

end

section

variable {F : Type} [FloatArith F]

/-- What a command makes of the last throttle and yaw given. -/
def give (given : F × F) : ConsoleCommand F → F × F
  | .thrust value => (value, given.2)
  | .yaw value => (given.1, value)
  | .reset => (ofRat 0, ofRat 0)
  | _ => given

/-- The last throttle and yaw given, 0 where none was since the start or a
`reset`. -/
def given (commands : List (ConsoleCommand F)) : F × F :=
  commands.foldl give (ofRat 0, ofRat 0)

theorem given_concat (commands : List (ConsoleCommand F))
    (command : ConsoleCommand F) :
    given (commands ++ [command]) = give (given commands) command :=
  List.foldl_concat ..

end

end ConsoleCommand

/-! ## The literals 0, 1 and -1 -/

/-- The literals -1, 0 and 1 compare as they should. -/
class UnitLiterals (F : Type) [FloatArith F] : Prop where
  not_lt : ∀ p ∈ [-1, 0, 1], ∀ q ∈ [-1, 0, 1], p ≤ q →
    lt (F := F) (ofRat q) (ofRat p) = false

instance : UnitLiterals ℚ where
  not_lt := by decide +kernel

section

variable {F : Type} [FloatArith F]

/-- Both axes in the range [-1, 1]. -/
def clampToUnitRanges (axes : F × F) : F × F :=
  (clampToUnitRange axes.1, clampToUnitRange axes.2)

variable [UnitLiterals F]

theorem clampToUnitRange_literal {q : ℚ} (hq : q ∈ [-1, 0, 1]) :
    clampToUnitRange (ofRat q : F) = ofRat q := by
  have hbounds : ∀ q ∈ [(-1 : ℚ), 0, 1], -1 ≤ q ∧ q ≤ 1 := by decide +kernel
  have hlow : lt (F := F) (ofRat q) (ofRat (-1)) = false :=
    UnitLiterals.not_lt _ (by decide) _ hq (hbounds q hq).1
  have hhigh : lt (F := F) (ofRat 1) (ofRat q) = false :=
    UnitLiterals.not_lt _ hq _ (by decide) (hbounds q hq).2
  rw [clampToUnitRange, hlow, hhigh]
  rfl

/-- What the client has clamped the server leaves as it is. -/
theorem clampToUnitRange_idem (value : F) :
    clampToUnitRange (clampToUnitRange value) = clampToUnitRange value := by
  cases hlow : lt value (ofRat (-1)) with
  | true =>
      have hclamped : clampToUnitRange value = ofRat (-1) := by
        rw [clampToUnitRange, if_pos hlow]
      rw [hclamped, clampToUnitRange_literal (by decide)]
  | false =>
      cases hhigh : lt (ofRat 1) value with
      | true =>
          have hclamped : clampToUnitRange value = ofRat 1 := by
            rw [clampToUnitRange, hlow, if_neg (by decide), if_pos hhigh]
          rw [hclamped, clampToUnitRange_literal (by decide)]
      | false =>
          have hclamped : clampToUnitRange value = value := by
            rw [clampToUnitRange, hlow, hhigh]
            rfl
          rw [hclamped, hclamped]

theorem clampToUnitRanges_neutral :
    clampToUnitRanges (ClientSession.neutral : F × F)
      = ClientSession.neutral :=
  Prod.ext (clampToUnitRange_literal (by decide))
    (clampToUnitRange_literal (by decide))

end

/-! ## The console and its session -/

/-- Every message and every input is processed before the next line. -/
structure ConsoleLink (F : Type) where
  console : Console F
  session : ClientSession F

namespace ConsoleLink

open ConsoleCommand LatestWins

section

variable {F : Type} [FloatArith F] (encodeDouble : ℚ → DoubleBits)
  (clientIp : String)

def enter (l : ConsoleLink F) (entry : ConsoleCommand F × TimePoint) :
    ConsoleLink F :=
  let (console, call) :=
    l.console.execute encodeDouble true entry.2 entry.1
  { console
    session := call.elim l.session fun call => call.run clientIp l.session }

def run (l : ConsoleLink F) (entries : List (ConsoleCommand F × TimePoint)) :
    ConsoleLink F :=
  entries.foldl (enter encodeDouble clientIp) l

/-- How many inputs some commands send. -/
def inputCount (commands : List (ConsoleCommand F)) : Nat :=
  commands.countP isInput

/-- A connected client that has seen its own Spawn, and a new session. -/
structure Fresh (l : ConsoleLink F) : Prop where
  connected : l.console.client.isConnected = true
  known : l.console.client.entityWorld.hasMyEntityId = true
  remembered : (l.console.lastThrottle, l.console.lastYaw)
    = ClientSession.neutral
  session : ∃ sessionId, l.session = .new sessionId

/-! ## What a run keeps -/

/-- Console and session after some commands, `first` inputs having gone to
an earlier session. -/
structure Tracks (first : Nat) (commands : List (ConsoleCommand F))
    (l : ConsoleLink F) : Prop where
  connected : l.console.client.isConnected = true
  known : l.console.client.entityWorld.hasMyEntityId = true
  counter : l.console.client.udpReceiver.nextControlInputSequenceId.toNat
    = first + inputCount commands
  mark : l.session.controls.mark ≤ first + inputCount commands
  remembered : (l.console.lastThrottle, l.console.lastYaw) = given commands
  flown : l.session.controls.value
    = if stopSince commands then ClientSession.neutral
      else clampToUnitRanges (given (throughInput commands))

variable {encodeDouble : ℚ → DoubleBits} {clientIp : String}
  {l : ConsoleLink F} {first : Nat} {commands : List (ConsoleCommand F)}

omit [FloatArith F] in
theorem inputCount_concat (commands : List (ConsoleCommand F))
    (command : ConsoleCommand F) :
    inputCount (commands ++ [command])
      = inputCount commands + if command.isInput then 1 else 0 := by
  rw [inputCount, List.countP_append, List.countP_singleton, inputCount]

/-- What a command of the client makes of the session's controls. -/
theorem runOn_controls (encodeDouble : ℚ → DoubleBits) (clientIp : String)
    (session : ClientSession F) (command : Command) (r : UdpReceiver)
    (now : TimePoint) :
    ((command.message encodeDouble r now).runOn clientIp session).controls
      = if command = .stop then { session.controls with
          value := ClientSession.neutral }
        else session.controls := by
  have hrun := ClientSession.controls_run clientIp session
    (.message (command.message encodeDouble r now))
  rw [SessionCall.run] at hrun
  rw [hrun]
  cases command <;> rfl

/-- A line that sends a command, and no input. -/
theorem tracks_command (encodeDouble : ℚ → DoubleBits) (clientIp : String)
    (h : Tracks first commands l) {line : ConsoleCommand F}
    (hinput : line.isInput = false) (command : Command) (now : TimePoint)
    (hstop : line.isStop = decide (command = .stop)) {axes : F × F}
    (haxes : axes = give (l.console.lastThrottle, l.console.lastYaw) line) :
    Tracks first (commands ++ [line])
      { console :=
          { client := (command.run l.console.client true now).2
            lastThrottle := axes.1
            lastYaw := axes.2 }
        session := (command.message encodeDouble l.console.client.udpReceiver
          now).runOn clientIp l.session } := by
  have hcontrols := runOn_controls encodeDouble clientIp l.session
    command l.console.client.udpReceiver now
  have hcount : inputCount (commands ++ [line]) = inputCount commands := by
    rw [inputCount_concat, hinput]
    rfl
  rw [Command.run_sent h.connected]
  refine ⟨h.connected, h.known, ?_, ?_, ?_, ?_⟩
  · rw [hcount, Command.finish_prepare_nextControlInputSequenceId]
    exact h.counter
  · rw [hcount, hcontrols]
    split
    · exact h.mark
    · exact h.mark
  · rw [given_concat, ← h.remembered]
    exact haxes
  · rw [stopSince_concat, throughInput_concat, hinput, hcontrols, hstop]
    by_cases hcommand : command = .stop
    · simp [hcommand]
    · simpa [hcommand] using h.flown

/-- A line that sends an input, with the axes it leaves remembered. -/
theorem tracks_input [UnitLiterals F] (h : Tracks first commands l)
    {line : ConsoleCommand F} (hinput : line.isInput = true)
    (hcount : first + inputCount (commands ++ [line]) < 2 ^ 32) {axes : F × F}
    (haxes : axes = give (l.console.lastThrottle, l.console.lastYaw) line) :
    Tracks first (commands ++ [line])
      { console := ({ l.console with
          lastThrottle := axes.1
          lastYaw := axes.2 } : Console F).sendControlInput.1
        session := (({ l.console with
          lastThrottle := axes.1
          lastYaw := axes.2 } : Console F).sendControlInput.2).elim l.session
            fun call => call.run clientIp l.session } := by
  let r := l.console.client.udpReceiver
  let sequenceId := r.nextControlInputSequenceId + 1
  have hsend : l.console.client.sendControlInput axes.1 axes.2
      = (some
          { entityId := l.console.client.entityWorld.myEntityId
            sequenceId
            throttle := clampToUnitRange axes.1
            yaw := clampToUnitRange axes.2 },
        { l.console.client with
          udpReceiver := { r with
            nextControlInputSequenceId := sequenceId } }) := by
    rw [GameClient.sendControlInput, h.connected, EntityWorld.tryGetMyEntityId,
      h.known]
    rfl
  rw [inputCount_concat, hinput, if_pos rfl] at hcount
  have hcounter : sequenceId.toNat = first + inputCount commands + 1 := by
    have hold : r.nextControlInputSequenceId.toNat
        = first + inputCount commands := h.counter
    rw [UInt32.toNat_add, hold]
    exact Nat.mod_eq_of_lt (by simpa [Nat.add_assoc] using hcount)
  have hcontrols := ClientSession.controls_applyControlInput l.session
    ⟨sequenceId, clampToUnitRange axes.1, clampToUnitRange axes.2⟩
  have hnews : l.session.controls.mark < sequenceId.toNat := by
    have hmark := h.mark
    omega
  have hclamped : SessionInput.clamped ⟨sequenceId, clampToUnitRange axes.1,
      clampToUnitRange axes.2⟩ = clampToUnitRanges axes :=
    Prod.ext (clampToUnitRange_idem axes.1) (clampToUnitRange_idem axes.2)
  rw [Register.apply_put_of_lt hnews, hclamped] at hcontrols
  have hgiven : given (commands ++ [line]) = axes := by
    rw [given_concat, ← h.remembered, haxes]
  simp only [Console.sendControlInput, hsend, Option.map_some, Option.elim]
  refine ⟨h.connected, h.known, ?_, ?_, hgiven.symm, ?_⟩
  · rw [inputCount_concat, hinput]
    exact hcounter
  · rw [inputCount_concat, hinput]
    exact (congrArg Register.mark hcontrols).le.trans hcounter.le
  · rw [stopSince_concat, throughInput_concat, hinput, if_pos rfl, hgiven]
    exact congrArg Register.value hcontrols

theorem tracks_enter [UnitLiterals F] (h : Tracks first commands l)
    (line : ConsoleCommand F) (now : TimePoint)
    (hcount : first + inputCount (commands ++ [line]) < 2 ^ 32) :
    Tracks first (commands ++ [line])
      (l.enter encodeDouble clientIp (line, now)) := by
  have hsent := fun command : Command =>
    congrArg Prod.fst (Command.run_sent h.connected command now)
  cases line with
  | thrust value => exact tracks_input h rfl hcount rfl
  | yaw value => exact tracks_input h rfl hcount rfl
  | display =>
      refine ⟨h.connected, h.known, ?_, ?_, ?_, ?_⟩
      · rw [inputCount_concat]
        exact h.counter
      · rw [inputCount_concat]
        exact h.mark
      · rw [given_concat]
        exact h.remembered
      · show l.session.controls.value = _
        rw [stopSince_concat, throughInput_concat, h.flown]
        simp [isInput, isStop]
  | play =>
      simp only [enter, Console.execute, Console.send, hsent, if_true]
      exact tracks_command encodeDouble clientIp h rfl .play now rfl rfl
  | pause =>
      simp only [enter, Console.execute, Console.send, hsent, if_true]
      exact tracks_command encodeDouble clientIp h rfl .pause now rfl rfl
  | stop =>
      simp only [enter, Console.execute, Console.send, hsent, if_true]
      exact tracks_command encodeDouble clientIp h rfl .stop now rfl rfl
  | reset =>
      simp only [enter, Console.execute, Console.send, hsent, if_true,
        Bool.not_true, Bool.false_eq_true, if_false]
      exact tracks_command encodeDouble clientIp h rfl .reset now rfl rfl
  | rate30 =>
      simp only [enter, Console.execute, Console.send, hsent, if_true]
      exact tracks_command encodeDouble clientIp h rfl (.setRate .hz30) now rfl
        rfl
  | rate60 =>
      simp only [enter, Console.execute, Console.send, hsent, if_true]
      exact tracks_command encodeDouble clientIp h rfl (.setRate .hz60) now rfl
        rfl

theorem tracks_run [UnitLiterals F] (encodeDouble : ℚ → DoubleBits)
    (clientIp : String) (h : l.Fresh)
    (entries : List (ConsoleCommand F × TimePoint)) :
    l.console.client.udpReceiver.nextControlInputSequenceId.toNat
        + inputCount (entries.map Prod.fst) < 2 ^ 32 →
      Tracks l.console.client.udpReceiver.nextControlInputSequenceId.toNat
        (entries.map Prod.fst) (l.run encodeDouble clientIp entries) := by
  induction entries using List.reverseRecOn with
  | nil =>
      intro _
      obtain ⟨sessionId, hsession⟩ := h.session
      refine ⟨h.connected, h.known, rfl, ?_, h.remembered, ?_⟩
      · show l.session.controls.mark ≤ _
        rw [hsession]
        exact Nat.zero_le _
      · show l.session.controls.value = _
        rw [hsession]
        exact clampToUnitRanges_neutral.symm
  | append_singleton entries entry ih =>
      rw [List.map_append, List.map_singleton]
      intro hcount
      have hfewer : inputCount (entries.map Prod.fst)
          ≤ inputCount (entries.map Prod.fst ++ [entry.1]) := by
        rw [inputCount_concat]
        exact Nat.le_add_right _ _
      rw [run, List.foldl_concat]
      exact tracks_enter (ih (by omega)) entry.1 entry.2 hcount

theorem given_eq (commands : List (ConsoleCommand F)) :
    given commands = if resetSince commands then ClientSession.neutral
      else given (throughInput commands) := by
  induction commands using List.reverseRecOn with
  | nil => rfl
  | append_singleton commands command ih =>
      rw [given_concat, resetSince_concat, throughInput_concat]
      cases command with
      | thrust value => simp [isInput, given_concat]
      | yaw value => simp [isInput, given_concat]
      | reset => simp [isInput, isReset, give, ClientSession.neutral]
      | _ => simpa [isInput, isReset, give] using ih

/-- What the console remembers is, clamped, what the session flies by, if
and only if since the last input both `stop` and `reset` were entered, or
neither, or that input was neutral. -/
theorem controls_mirror_iff [UnitLiterals F] (h : l.Fresh)
    (encodeDouble : ℚ → DoubleBits) (clientIp : String)
    (entries : List (ConsoleCommand F × TimePoint))
    (hcount : l.console.client.udpReceiver.nextControlInputSequenceId.toNat
      + inputCount (entries.map Prod.fst) < 2 ^ 32) :
    ((l.run encodeDouble clientIp entries).session.throttle
        = clampToUnitRange
          (l.run encodeDouble clientIp entries).console.lastThrottle
      ∧ (l.run encodeDouble clientIp entries).session.yaw
        = clampToUnitRange
          (l.run encodeDouble clientIp entries).console.lastYaw)
      ↔ stopSince (entries.map Prod.fst) = resetSince (entries.map Prod.fst)
        ∨ clampToUnitRange (given (throughInput (entries.map Prod.fst))).1
            = ofRat 0
          ∧ clampToUnitRange (given (throughInput (entries.map Prod.fst))).2
            = ofRat 0 := by
  have htracks := tracks_run encodeDouble clientIp h entries hcount
  have hremembered := htracks.remembered
  have hflown := htracks.flown
  rw [given_eq] at hremembered
  generalize l.run encodeDouble clientIp entries = l' at hremembered hflown ⊢
  generalize entries.map Prod.fst = commands at hremembered hflown ⊢
  generalize given (throughInput commands) = axes at hremembered hflown ⊢
  have hboth : l'.session.throttle = clampToUnitRange l'.console.lastThrottle
      ∧ l'.session.yaw = clampToUnitRange l'.console.lastYaw
      ↔ l'.session.controls.value = clampToUnitRanges
        (l'.console.lastThrottle, l'.console.lastYaw) := by
    rw [Prod.ext_iff]
    rfl
  have hneutral : clampToUnitRange axes.1 = ofRat 0
      ∧ clampToUnitRange axes.2 = ofRat 0
      ↔ clampToUnitRanges axes = ClientSession.neutral := by
    rw [Prod.ext_iff]
    rfl
  rw [hboth, hneutral, hremembered, hflown]
  cases stopSince commands <;> cases resetSince commands <;>
    simp [clampToUnitRanges_neutral, eq_comm]

end

/-- A client that has just seen its own Spawn. -/
def connected : ConsoleLink ℚ where
  console :=
    { client :=
        { (({} : GameClient).connect {} none).2 with
          entityWorld := ({} : EntityWorld).onSpawn { entityId := 1 } }
      lastThrottle := 0
      lastYaw := 0 }
  session := .new 1

theorem connected_fresh : connected.Fresh :=
  ⟨rfl, rfl, rfl, 1, rfl⟩

/-- A `stop`, and a `yaw` that sends the old throttle again. -/
theorem controls_mirror_resent :
    (connected.run (fun _ => 0) "127.0.0.1" [(.play, 0), (.thrust 2, 0),
      (.stop, 0), (.yaw (1 / 2), 0)]).session.throttle = 1 := by
  have hmirror := (controls_mirror_iff connected_fresh (fun _ => 0)
    "127.0.0.1" [(.play, 0), (.thrust 2, 0), (.stop, 0), (.yaw (1 / 2), 0)]
    (by decide +kernel)).mpr (Or.inl (by decide))
  exact hmirror.1.trans (by decide +kernel)

/-- After `thrust 1` and `reset` the console has forgotten a throttle the
session still flies by; after `stop` it is the other way round. -/
theorem controls_forgotten :
    (∃ l, l = connected.run (fun _ => 0) "127.0.0.1"
        [(.thrust 1, 0), (.reset, 0)]
      ∧ l.session.throttle = 1 ∧ clampToUnitRange l.console.lastThrottle = 0)
    ∧ ∃ l, l = connected.run (fun _ => 0) "127.0.0.1"
        [(.thrust 1, 0), (.stop, 0)]
      ∧ l.session.throttle = 0
      ∧ clampToUnitRange l.console.lastThrottle = 1 := by
  refine ⟨⟨_, rfl, ?_⟩, _, rfl, ?_⟩ <;> decide +kernel

end ConsoleLink

end NetworkControl
