import NetworkControl.Lts
import NetworkControl.StreamingService

/-!
# Playing, and not

One session between its three threads: the streaming worker, the worker
of its control connection, and the receiver of the control inputs. Every
atomic or locked access is a step of its own. The commands and the worker
are those of `ClientSession` and `StreamingService` when nobody comes
between (`command_alone`, `worker_alone`).

While a session does not play, what playing advances should stand still.
The worker tests `state_` once and acts on it later, though: the result
holds in the runs where, once a command has returned, it acts only on a
session that still plays.
-/

namespace NetworkControl

open Endian FloatArith

/-! ## The threads -/

/-- Where the streaming worker is with this session. -/
inductive StreamingPc where
  | waiting
  | testPhysics (elapsedTicks : Nat)
  | stepping (left : Nat)
  | testCollect
  | testSend
  | readRate
  | readEndpoint
  | sequence
deriving DecidableEq, Repr

/-- The next access is `StepPhysics` or `GetNextSequenceId`. -/
def StreamingPc.advances : StreamingPc → Bool
  | .stepping (_ + 1) => true
  | .sequence => true
  | _ => false

/-- Where the control worker is inside a command. -/
inductive CommandPc where
  | idle
  | playPaused
  | playStore
  | pauseStore
  | stopSequence
  | stopEntity
deriving DecidableEq, Repr

inductive SessionCommand where
  | play
  | pause
  | stop
  | reset
  | setRate (dataRateHz : UInt32)
  | registerUdpEndpoint (ip : String) (port : UInt16)
deriving DecidableEq, Repr

structure Playback (F : Type) where
  session : ClientSession F
  tickCount : UInt64 := 0
  worker : StreamingPc := .waiting
  control : CommandPc := .idle

/-- `tick` is `WaitForNextTick` and the snapshot, which holds this session;
`othersPlaying` says whether another one was collected. -/
inductive PlaybackAction (F : Type) where
  | tick (elapsedTicks : UInt64)
  | worker (othersPlaying : Bool)
  | call (command : SessionCommand)
  | control
  | applyControlInput (sequenceId : UInt32) (throttle yaw : F)

namespace Playback

section

variable {F : Type} [FloatArith F] (inetPton : String → Option UInt32)

/-- The worker's next access. `BuildEntityStateEntry` only reads. -/
def workerStep (othersPlaying : Bool) (s : Playback F) :
    Option (Playback F) :=
  match s.worker with
  | .waiting => none
  | .testPhysics elapsedTicks =>
      if s.session.state = .playing then
        some { s with worker := .stepping elapsedTicks }
      else some { s with worker := .testCollect }
  | .stepping (left + 1) =>
      some { s with
        session := s.session.stepPhysics fixedDeltaSeconds
        worker := .stepping left }
  | .stepping 0 => some { s with worker := .testCollect }
  | .testCollect =>
      if s.session.state = .playing ∨ othersPlaying = true then
        some { s with worker := .testSend }
      else some { s with worker := .waiting }
  | .testSend =>
      if s.session.state ≠ .playing then some { s with worker := .waiting }
      else some { s with worker := .readRate }
  | .readRate =>
      if s.session.dataRate = .hz30 ∧ s.tickCount % 2 ≠ 0 then
        some { s with worker := .waiting }
      else some { s with worker := .readEndpoint }
  | .readEndpoint =>
      match s.session.tryGetUdpEndpoint with
      | none => some { s with worker := .waiting }
      | some (ip, port) =>
          if (Ipv4Endpoint.tryCreate inetPton ip port).isSome then
            some { s with worker := .sequence }
          else some { s with worker := .waiting }
  | .sequence =>
      some { s with
        session := s.session.getNextSequenceId.2
        worker := .waiting }

/-- A command begins, with its first access. -/
def call (s : Playback F) : SessionCommand → Playback F
  | .play =>
      { s with
        control := if s.session.state = .stopped then .playStore
          else .playPaused }
  | .pause =>
      { s with
        control := if s.session.state = .playing then .pauseStore else .idle }
  | .stop =>
      { s with
        session := { s.session with state := .stopped }
        control := .stopSequence }
  | .reset => { s with session := s.session.reset }
  | .setRate dataRateHz =>
      { s with session := s.session.setRate dataRateHz }
  | .registerUdpEndpoint ip port =>
      { s with session := s.session.registerUdpEndpoint ip port }

/-- The next access of the command under way. -/
def controlStep (s : Playback F) : Option (Playback F) :=
  match s.control with
  | .idle => none
  | .playPaused =>
      some { s with
        control := if s.session.state = .paused then .playStore else .idle }
  | .playStore =>
      some { s with
        session := { s.session with state := .playing }
        control := .idle }
  | .pauseStore =>
      some { s with
        session := { s.session with state := .paused }
        control := .idle }
  | .stopSequence =>
      some { s with
        session := { s.session with nextSequenceId := 0 }
        control := .stopEntity }
  | .stopEntity =>
      some { s with
        session := { s.session with
          positionX := ofRat 0
          positionY := ofRat 0
          heading := ofRat 0
          speed := ofRat 0
          velocityX := ofRat 0
          velocityY := ofRat 0
          throttle := ofRat 0
          yaw := ofRat 0 }
        control := .idle }

def step (s : Playback F) : PlaybackAction F → Option (Playback F)
  | .tick elapsedTicks =>
      if s.worker = .waiting then
        some { s with
          tickCount := s.tickCount + elapsedTicks
          worker := .testPhysics elapsedTicks.toNat }
      else none
  | .worker othersPlaying => s.workerStep inetPton othersPlaying
  | .call command =>
      if s.control = .idle then some (s.call command) else none
  | .control => s.controlStep
  | .applyControlInput sequenceId throttle yaw =>
      some { s with
        session := s.session.applyControlInput sequenceId throttle yaw }

def system : Lts (Playback F) (PlaybackAction F) where
  init s := ∃ sessionId, s = { session := .new sessionId }
  step := step inetPton

/-! ## Nobody in between -/

/-- The command as `ClientSession` has it. -/
def applyCommand (session : ClientSession F) :
    SessionCommand → ClientSession F
  | .play => session.play
  | .pause => session.pause
  | .stop => session.stop
  | .reset => session.reset
  | .setRate dataRateHz => session.setRate dataRateHz
  | .registerUdpEndpoint ip port => session.registerUdpEndpoint ip port

theorem command_alone (s : Playback F) (hidle : s.control = .idle)
    (command : SessionCommand) :
    ∃ n, (system inetPton).run s (.call command :: List.replicate n .control)
      = some { s with session := applyCommand s.session command } := by
  obtain ⟨session, tickCount, worker, control⟩ := s
  obtain rfl : control = .idle := hidle
  cases command with
  | play =>
      cases hstate : session.state with
      | stopped =>
          exact ⟨1, by simp [Lts.run, system, step, call, controlStep,
            applyCommand, ClientSession.play, hstate]⟩
      | paused =>
          exact ⟨2, by simp [Lts.run, system, step, call, controlStep,
            applyCommand, ClientSession.play, hstate, List.replicate]⟩
      | playing =>
          exact ⟨1, by simp [Lts.run, system, step, call, controlStep,
            applyCommand, ClientSession.play, hstate]⟩
  | pause =>
      by_cases hstate : session.state = .playing
      · exact ⟨1, by simp [Lts.run, system, step, call, controlStep,
          applyCommand, ClientSession.pause, hstate]⟩
      · exact ⟨0, by simp [Lts.run, system, step, call, applyCommand,
          ClientSession.pause, hstate]⟩
  | stop => exact ⟨2, rfl⟩
  | reset => exact ⟨0, rfl⟩
  | setRate dataRateHz => exact ⟨0, rfl⟩
  | registerUdpEndpoint ip port => exact ⟨0, rfl⟩

theorem stepping_alone : ∀ (left : Nat) (s : Playback F),
    s.worker = .stepping left →
      (system inetPton).run s (List.replicate (left + 1) (.worker false))
        = some { s with
            session :=
              (fun x => x.stepPhysics fixedDeltaSeconds)^[left] s.session
            worker := .testCollect }
  | 0, s, hs => by
      simp [Lts.run, system, step, workerStep, hs]
  | left + 1, s, hs => by
      have hrest := stepping_alone left
        { s with
          session := s.session.stepPhysics fixedDeltaSeconds
          worker := .stepping left } rfl
      rw [List.replicate_succ, Lts.run]
      simp only [system, step, workerStep, hs, Option.bind_some]
      rw [Function.iterate_succ_apply]
      exact hrest

/-- The session after its turn as a recipient. -/
def afterSend (tickCount : UInt64) (session : ClientSession F) :
    ClientSession F :=
  match recipientEndpoint inetPton tickCount session with
  | none => session
  | some _ => session.getNextSequenceId.2

theorem send_alone (s : Playback F) (hs : s.worker = .testSend) :
    ∃ n, (system inetPton).run s (List.replicate n (.worker false))
      = some { s with
          session := afterSend inetPton s.tickCount s.session
          worker := .waiting } := by
  by_cases hstate : s.session.state = .playing
  · by_cases hrate : s.session.dataRate = .hz30 ∧ s.tickCount % 2 ≠ 0
    · refine ⟨2, ?_⟩
      simp [Lts.run, system, step, workerStep, hs, hstate, hrate,
        afterSend, recipientEndpoint, List.replicate]
    · cases hendpoint : s.session.tryGetUdpEndpoint with
      | none =>
          refine ⟨3, ?_⟩
          simp [Lts.run, system, step, workerStep, hs, hstate, hrate,
            hendpoint, afterSend, recipientEndpoint, List.replicate]
      | some endpoint =>
          obtain ⟨ip, port⟩ := endpoint
          cases hcreate : Ipv4Endpoint.tryCreate inetPton ip port with
          | none =>
              refine ⟨3, ?_⟩
              simp [Lts.run, system, step, workerStep, hs, hstate, hrate,
                hendpoint, hcreate, afterSend, recipientEndpoint,
                List.replicate]
          | some destination =>
              refine ⟨4, ?_⟩
              simp [Lts.run, system, step, workerStep, hs, hstate, hrate,
                hendpoint, hcreate, afterSend, recipientEndpoint,
                List.replicate]
  · refine ⟨1, ?_⟩
    simp [Lts.run, system, step, workerStep, hs, hstate, afterSend,
      recipientEndpoint]

theorem workerIteration_single {session : ClientSession F}
    (hstate : session.state = .playing) (host : ByteOrder)
    (tickCount elapsedTicks timestamp : UInt64) :
    (workerIteration host inetPton tickCount elapsedTicks timestamp
        [session]).sessions
      = [afterSend inetPton (tickCount + elapsedTicks)
          (stepElapsed elapsedTicks session)] := by
  have hstepped : (stepElapsed elapsedTicks session).state = .playing :=
    (stepElapsed_keeps ClientSession.state (fun _ => rfl) _ _).trans hstate
  have hentries : collectEntries [stepElapsed elapsedTicks session]
      = [(stepElapsed elapsedTicks session).buildEntityStateEntry] := by
    simp [collectEntries, hstepped]
  simp only [workerIteration, broadcast, List.map_cons, List.map_nil,
    hentries, List.isEmpty_cons, Bool.false_eq_true, if_false,
    sendToRecipients, afterSend]
  cases hrecipient : recipientEndpoint inetPton
      (tickCount + elapsedTicks) (stepElapsed elapsedTicks session) with
  | none => rfl
  | some destination => rfl

/-- A tick for this session only is an iteration of `Worker`. -/
theorem worker_alone (s : Playback F) (hs : s.worker = .waiting)
    (host : ByteOrder) (elapsedTicks timestamp : UInt64) :
    ∃ n session, (system inetPton).run s
        (.tick elapsedTicks :: List.replicate n (.worker false))
          = some { s with
              session
              tickCount := s.tickCount + elapsedTicks }
      ∧ (workerIteration host inetPton s.tickCount elapsedTicks timestamp
          [s.session]).sessions = [session] := by
  obtain ⟨session, tickCount, worker, control⟩ := s
  obtain rfl : worker = .waiting := hs
  by_cases hstate : session.state = .playing
  · have hstepped : (stepElapsed elapsedTicks session).state = .playing :=
      (stepElapsed_keeps ClientSession.state (fun _ => rfl) _ _).trans hstate
    obtain ⟨n, hsend⟩ := send_alone inetPton
      { session := stepElapsed elapsedTicks session
        tickCount := tickCount + elapsedTicks
        worker := .testSend
        control } rfl
    have hphysics := stepping_alone inetPton elapsedTicks.toNat
      { session
        tickCount := tickCount + elapsedTicks
        worker := .stepping elapsedTicks.toNat
        control } rfl
    refine ⟨1 + (elapsedTicks.toNat + 1 + (1 + n)),
      afterSend inetPton (tickCount + elapsedTicks)
        (stepElapsed elapsedTicks session), ?_, ?_⟩
    · have hiterate : stepElapsed elapsedTicks session
          = (fun x => x.stepPhysics fixedDeltaSeconds)^[elapsedTicks.toNat]
            session := if_pos hstate
      rw [List.replicate_add 1, List.replicate_add (elapsedTicks.toNat + 1),
        List.replicate_add 1 n, List.replicate_one, ← List.singleton_append,
        ← List.append_assoc, Lts.run_append]
      have htest : (system inetPton).run
          { session, tickCount, worker := .waiting, control }
          ([.tick elapsedTicks] ++ [.worker false])
            = some {
                session
                tickCount := tickCount + elapsedTicks
                worker := .stepping elapsedTicks.toNat
                control } := by
        simp [Lts.run, system, step, workerStep, hstate]
      rw [htest, Option.bind_some, Lts.run_append, hphysics, Option.bind_some,
        ← hiterate, Lts.run_append]
      have hcollect : (system inetPton).run
          { session := stepElapsed elapsedTicks session
            tickCount := tickCount + elapsedTicks
            worker := .testCollect
            control } [.worker false]
            = some {
                session := stepElapsed elapsedTicks session
                tickCount := tickCount + elapsedTicks
                worker := .testSend
                control } := by
        simp [Lts.run, system, step, workerStep, hstepped]
      rw [hcollect, Option.bind_some]
      exact hsend
    · exact workerIteration_single inetPton hstate host tickCount
        elapsedTicks timestamp
  · refine ⟨2, session, ?_, ?_⟩
    · simp [Lts.run, system, step, workerStep, hstate, List.replicate]
    · simp [workerIteration, broadcast, collectEntries, stepElapsed, hstate]

end

/-! ## Since Stop, since Pause -/

/-- What playing advances. -/
structure Progress (F : Type) where
  positionX : F
  positionY : F
  heading : F
  speed : F
  velocityX : F
  velocityY : F
  nextSequenceId : UInt64

/-- `stopped`: a Stop has returned and no Play has begun since. `paused`:
a Pause has returned, and no Play, Stop or Reset has begun since; it left
this progress. -/
structure Windows (F : Type) where
  stopped : Bool := false
  paused : Option (Progress F) := none

def Windows.isOpen {F : Type} (w : Windows F) : Bool :=
  w.stopped || w.paused.isSome

theorem Windows.isOpen_eq_false {F : Type} {w : Windows F} :
    w.isOpen = false ↔ w.stopped = false ∧ w.paused = none := by
  rw [isOpen, Bool.or_eq_false_iff, Option.isSome_eq_false_iff,
    Option.isNone_iff_eq_none]

section

variable {F : Type}

def progress (s : Playback F) : Progress F where
  positionX := s.session.positionX
  positionY := s.session.positionY
  heading := s.session.heading
  speed := s.session.speed
  velocityX := s.session.velocityX
  velocityY := s.session.velocityY
  nextSequenceId := s.session.nextSequenceId

/-- A Pause that finds the session not playing returns at once. -/
def recordWindows (s : Playback F) (a : PlaybackAction F) (w : Windows F) :
    Windows F :=
  match a with
  | .call .play => {}
  | .call .pause =>
      if s.session.state = .playing then w
      else { w with paused := w.paused.or (some s.progress) }
  | .call .stop => { w with paused := none }
  | .call .reset => { w with paused := none }
  | .control =>
      match s.control with
      | .pauseStore => { w with paused := w.paused.or (some s.progress) }
      | .stopEntity => { w with stopped := true }
      | _ => w
  | _ => w

/-- Once a command has returned the worker advances the session only if it
still plays. Nor does it take a sequence id on an older test once a Stop
has set the number back. -/
def ActsOnPlaying (x : Playback F × Windows F) : PlaybackAction F → Prop
  | .worker _ =>
      (x.1.worker.advances = true ∧ x.2.isOpen = true
        ∨ x.1.worker = .sequence ∧ x.1.control = .stopEntity) →
          x.1.session.state = .playing
  | _ => True

instance (x : Playback F × Windows F) :
    (a : PlaybackAction F) → Decidable (ActsOnPlaying x a)
  | .worker _ => inferInstanceAs (Decidable (_ → _))
  | .tick _ | .call _ | .control | .applyControlInput _ _ _ => .isTrue trivial

variable [FloatArith F]

def origin : Progress F where
  positionX := ofRat 0
  positionY := ofRat 0
  heading := ofRat 0
  speed := ofRat 0
  velocityX := ofRat 0
  velocityY := ofRat 0
  nextSequenceId := 0

/-- At the origin while stopped, and unchanged while paused. -/
structure Frozen (s : Playback F) (w : Windows F) : Prop where
  stopped : w.stopped = true → s.progress = origin
  paused : ∀ progress ∈ w.paused, s.progress = progress

def recordedSystem (inetPton : String → Option UInt32) :
    Lts (Playback F × Windows F) (PlaybackAction F) :=
  (system inetPton).recording recordWindows {}

/-- While a window is open the session does not play, and no command is
about to make it play. -/
structure Standing (s : Playback F) (w : Windows F) : Prop where
  frozen : s.Frozen w
  state : w.isOpen = true → s.session.state ≠ .playing
  control : w.isOpen = true → s.control ≠ .playPaused ∧ s.control ≠ .playStore
  stopping : s.control = .stopSequence ∨ s.control = .stopEntity →
    s.session.state ≠ .playing ∧ w.paused = none
  sequence : s.control = .stopEntity → s.session.nextSequenceId = 0

/-! ## The steps -/

variable {inetPton : String → Option UInt32} {s t : Playback F}
  {w : Windows F} {a : PlaybackAction F}

/-- Steps of the worker that only move it, and those of the receiver. -/
theorem Standing.frame (hs : s.Standing w)
    (hprogress : t.progress = s.progress)
    (hstate : t.session.state = s.session.state)
    (hcontrol : t.control = s.control) : t.Standing w := by
  have hsequence : t.session.nextSequenceId = s.session.nextSequenceId :=
    congrArg Progress.nextSequenceId hprogress
  refine ⟨⟨?_, ?_⟩, ?_, ?_, ?_, ?_⟩
  · rw [hprogress]
    exact hs.frozen.stopped
  · rw [hprogress]
    exact hs.frozen.paused
  · rw [hstate]
    exact hs.state
  · rw [hcontrol]
    exact hs.control
  · rw [hcontrol, hstate]
    exact hs.stopping
  · rw [hcontrol, hsequence]
    exact hs.sequence

/-- The worker may advance a session with no window open. -/
theorem Standing.advance (hs : s.Standing w) (hopen : w.isOpen = false)
    (hstate : t.session.state = s.session.state)
    (hcontrol : t.control = s.control)
    (hsequence : s.control = .stopEntity →
      t.session.nextSequenceId = s.session.nextSequenceId) :
    t.Standing w := by
  obtain ⟨hstopped, hpaused⟩ := Windows.isOpen_eq_false.mp hopen
  refine ⟨⟨fun h => ?_, fun progress h => ?_⟩, fun h => ?_, fun h => ?_,
    ?_, fun h => ?_⟩
  · rw [hstopped] at h
    cases h
  · rw [hpaused] at h
    cases h
  · rw [hopen] at h
    cases h
  · rw [hopen] at h
    cases h
  · rw [hcontrol, hstate]
    exact hs.stopping
  · rw [hcontrol] at h
    rw [hsequence h]
    exact hs.sequence h

/-- The worker moves, steps the physics, or takes a sequence id. -/
theorem workerStep_cases {othersPlaying : Bool}
    (h : s.workerStep inetPton othersPlaying = some t) :
    (∃ worker, t = { s with worker })
      ∨ (∃ left, s.worker = .stepping (left + 1)
        ∧ t = { s with
            session := s.session.stepPhysics fixedDeltaSeconds
            worker := .stepping left })
      ∨ (s.worker = .sequence
        ∧ t = { s with
            session := s.session.getNextSequenceId.2
            worker := .waiting }) := by
  unfold workerStep at h
  split at h
  · cases h
  · split at h
    · exact Or.inl ⟨_, (Option.some.inj h).symm⟩
    · exact Or.inl ⟨_, (Option.some.inj h).symm⟩
  · rename_i left hpc
    exact Or.inr (Or.inl ⟨left, hpc, (Option.some.inj h).symm⟩)
  · exact Or.inl ⟨_, (Option.some.inj h).symm⟩
  · split at h
    · exact Or.inl ⟨_, (Option.some.inj h).symm⟩
    · exact Or.inl ⟨_, (Option.some.inj h).symm⟩
  · split at h
    · exact Or.inl ⟨_, (Option.some.inj h).symm⟩
    · exact Or.inl ⟨_, (Option.some.inj h).symm⟩
  · split at h
    · exact Or.inl ⟨_, (Option.some.inj h).symm⟩
    · exact Or.inl ⟨_, (Option.some.inj h).symm⟩
  · split at h
    · exact Or.inl ⟨_, (Option.some.inj h).symm⟩
    · split at h
      · exact Or.inl ⟨_, (Option.some.inj h).symm⟩
      · exact Or.inl ⟨_, (Option.some.inj h).symm⟩
  · rename_i hpc
    exact Or.inr (Or.inr ⟨hpc, (Option.some.inj h).symm⟩)

theorem standing_worker (hs : s.Standing w) {othersPlaying : Bool}
    (hok : ActsOnPlaying (s, w) (.worker othersPlaying))
    (h : s.workerStep inetPton othersPlaying = some t) : t.Standing w := by
  have hclosed : s.worker.advances = true → w.isOpen = false := by
    intro hadvances
    by_contra hopen
    have hopen : w.isOpen = true := by simpa using hopen
    exact hs.state hopen (hok (Or.inl ⟨hadvances, hopen⟩))
  rcases workerStep_cases h with
    ⟨worker, rfl⟩ | ⟨left, hpc, rfl⟩ | ⟨hpc, rfl⟩
  · exact hs.frame rfl rfl rfl
  · exact hs.advance (hclosed (by rw [hpc]; rfl)) rfl rfl fun _ => rfl
  · refine hs.advance (hclosed (by rw [hpc]; rfl)) rfl rfl fun hstop => ?_
    exact absurd (hok (Or.inr ⟨hpc, hstop⟩)) (hs.stopping (Or.inr hstop)).1

/-- With no window open there is nothing to keep, outside of a Stop. -/
theorem standing_closed (hopen : w.isOpen = false)
    (hsequence : s.control ≠ .stopSequence)
    (hentity : s.control ≠ .stopEntity) : s.Standing w := by
  obtain ⟨hstopped, hpaused⟩ := Windows.isOpen_eq_false.mp hopen
  refine ⟨⟨fun h => ?_, fun progress h => ?_⟩, fun h => ?_, fun h => ?_,
    fun h => ?_, fun h => absurd h hentity⟩
  · rw [hstopped] at h
    cases h
  · rw [hpaused] at h
    cases h
  · rw [hopen] at h
    cases h
  · rw [hopen] at h
    cases h
  · rcases h with h | h
    · exact absurd h hsequence
    · exact absurd h hentity

/-- A Pause returns. -/
theorem Standing.pause (hs : s.Standing w)
    (hprogress : t.progress = s.progress)
    (hstate : t.session.state ≠ .playing) (hcontrol : t.control = .idle) :
    t.Standing { w with paused := w.paused.or (some s.progress) } := by
  refine ⟨⟨fun h => hprogress.trans (hs.frozen.stopped h),
    fun progress h => hprogress.trans ?_⟩, fun _ => hstate, fun _ => ?_,
    fun h => ?_, fun h => ?_⟩
  · cases hpaused : w.paused with
    | none =>
        rw [hpaused] at h
        exact Option.some.inj h
    | some before =>
        rw [hpaused] at h
        exact hs.frozen.paused progress (hpaused ▸ h)
  · rw [hcontrol]
    exact ⟨fun h => (nomatch h), fun h => nomatch h⟩
  · rw [hcontrol] at h
    exact h.elim (fun h => nomatch h) fun h => nomatch h
  · rw [hcontrol] at h
    cases h

theorem Standing.reset (hs : s.Standing w) (hidle : s.control = .idle) :
    (s.call .reset).Standing { w with paused := none } := by
  refine ⟨⟨fun h => ?_, fun _ h => (nomatch h)⟩, fun h => ?_, fun _ => ?_,
    fun h => ?_, fun _ => rfl⟩
  · show { s.progress with nextSequenceId := 0 } = origin
    rw [hs.frozen.stopped h]
    rfl
  · have hstopped : w.stopped = true := by
      simpa [Windows.isOpen] using h
    exact hs.state (by simp [Windows.isOpen, hstopped])
  · show s.control ≠ _ ∧ s.control ≠ _
    rw [hidle]
    exact ⟨fun h => (nomatch h), fun h => nomatch h⟩
  · have hcontrol : s.control = .stopSequence ∨ s.control = .stopEntity := h
    rw [hidle] at hcontrol
    exact hcontrol.elim (fun h => nomatch h) fun h => nomatch h

theorem standing_call (hs : s.Standing w) (hidle : s.control = .idle)
    (command : SessionCommand) :
    (s.call command).Standing (s.recordWindows (.call command) w) := by
  cases command with
  | play =>
      refine standing_closed rfl ?_ ?_
      · simp only [call]
        split <;> exact fun h => nomatch h
      · simp only [call]
        split <;> exact fun h => nomatch h
  | pause =>
      simp only [recordWindows]
      split
      · rename_i hstate
        refine standing_closed ?_ ?_ ?_
        · by_contra hopen
          exact hs.state (by simpa using hopen) hstate
        · rw [call, if_pos hstate]
          exact fun h => nomatch h
        · rw [call, if_pos hstate]
          exact fun h => nomatch h
      · rename_i hstate
        exact hs.pause rfl hstate (if_neg hstate)
  | stop =>
      refine ⟨⟨hs.frozen.stopped, fun _ h => (nomatch h)⟩, fun _ h => ?_,
        fun _ => ⟨fun h => (nomatch h), fun h => (nomatch h)⟩,
        fun _ => ⟨fun h => (nomatch h), rfl⟩, fun h => nomatch h⟩
      cases h
  | reset => exact hs.reset hidle
  | setRate dataRateHz =>
      refine hs.frame ?_ ?_ rfl
      · simp only [call, ClientSession.setRate, progress]
        split
        · rfl
        · split <;> rfl
      · simp only [call, ClientSession.setRate]
        split
        · rfl
        · split <;> rfl
  | registerUdpEndpoint ip port => exact hs.frame rfl rfl rfl

/-- `nextSequenceId_ = 0`. -/
theorem Standing.stopSequence (hs : s.Standing w)
    (hcontrol : s.control = .stopSequence) (h : s.controlStep = some t) :
    t.Standing w := by
  rw [controlStep, hcontrol] at h
  obtain rfl := Option.some.inj h
  obtain ⟨hstate, hpaused⟩ := hs.stopping (Or.inl hcontrol)
  refine ⟨⟨fun h => ?_, fun progress h => ?_⟩, fun _ => hstate,
    fun _ => ⟨fun h => (nomatch h), fun h => (nomatch h)⟩,
    fun _ => ⟨hstate, hpaused⟩, fun _ => rfl⟩
  · show { s.progress with nextSequenceId := 0 } = origin
    rw [hs.frozen.stopped h]
    rfl
  · rw [hpaused] at h
    cases h

/-- The entity's part of a Stop, and its return. -/
theorem Standing.stopEntity (hs : s.Standing w)
    (hcontrol : s.control = .stopEntity) (h : s.controlStep = some t) :
    t.Standing { w with stopped := true } := by
  rw [controlStep, hcontrol] at h
  obtain rfl := Option.some.inj h
  obtain ⟨hstate, hpaused⟩ := hs.stopping (Or.inr hcontrol)
  refine ⟨⟨fun _ => ?_, fun progress h => ?_⟩, fun _ => hstate,
    fun _ => ⟨fun h => (nomatch h), fun h => (nomatch h)⟩,
    fun h => ?_, fun h => nomatch h⟩
  · -- the other fields were written by this step
    simp only [Playback.progress, origin, hs.sequence hcontrol]
  · rw [hpaused] at h
    cases h
  · exact h.elim (fun h => nomatch h) fun h => nomatch h

theorem standing_control (hs : s.Standing w) (h : s.controlStep = some t) :
    t.Standing (s.recordWindows .control w) := by
  have hclosed : s.control = .playPaused ∨ s.control = .playStore →
      w.isOpen = false := by
    intro hplay
    by_contra hopen
    obtain ⟨hpaused, hstore⟩ := hs.control (by simpa using hopen)
    exact hplay.elim hpaused hstore
  unfold recordWindows
  cases hcontrol : s.control with
  | idle =>
      rw [controlStep, hcontrol] at h
      cases h
  | playPaused =>
      rw [controlStep, hcontrol] at h
      obtain rfl := Option.some.inj h
      refine standing_closed (hclosed (Or.inl hcontrol)) ?_ ?_
      · dsimp only
        split <;> exact fun h => nomatch h
      · dsimp only
        split <;> exact fun h => nomatch h
  | playStore =>
      rw [controlStep, hcontrol] at h
      obtain rfl := Option.some.inj h
      exact standing_closed (hclosed (Or.inr hcontrol))
        (fun h => nomatch h) fun h => nomatch h
  | pauseStore =>
      rw [controlStep, hcontrol] at h
      obtain rfl := Option.some.inj h
      exact hs.pause rfl (fun h => nomatch h) rfl
  | stopSequence => exact hs.stopSequence hcontrol h
  | stopEntity => exact hs.stopEntity hcontrol h

theorem standing_step (hs : s.Standing w) (hok : ActsOnPlaying (s, w) a)
    (h : s.step inetPton a = some t) :
    t.Standing (s.recordWindows a w) := by
  cases a with
  | tick elapsedTicks =>
      simp only [step] at h
      split at h
      · obtain rfl := Option.some.inj h
        exact hs.frame rfl rfl rfl
      · cases h
  | worker othersPlaying => exact standing_worker hs hok h
  | call command =>
      simp only [step] at h
      split at h
      · rename_i hidle
        obtain rfl := Option.some.inj h
        exact standing_call hs hidle command
      · cases h
  | control => exact standing_control hs h
  | applyControlInput sequenceId throttle yaw =>
      obtain rfl := Option.some.inj h
      refine hs.frame ?_ ?_ rfl
      · simp only [ClientSession.applyControlInput, progress]
        split <;> rfl
      · simp only [ClientSession.applyControlInput]
        split <;> rfl

/-- In the runs that keep to `ActsOnPlaying`: a stopped session is at the
origin with no packets counted, and a paused one is where it was. -/
theorem frozen_while_not_playing {x : Playback F × Windows F}
    (h : (recordedSystem inetPton).ReachableUnder ActsOnPlaying x) :
    x.1.Frozen x.2 := by
  have hstanding : x.1.Standing x.2 := by
    refine Lts.ReachableUnder.invariant
      (I := fun x : Playback F × Windows F => x.1.Standing x.2) h ?_ ?_
    · rintro ⟨s, w⟩ ⟨⟨sessionId, rfl⟩, rfl⟩
      exact standing_closed rfl (fun h => nomatch h) fun h => nomatch h
    · intro x a y hx hok hstep
      obtain ⟨hstep, hrecord⟩ := Lts.recording_step hstep
      rw [hrecord]
      exact standing_step hx hok hstep
  exact hstanding.frozen

/-- A sequence id taken while a window is open always shows. -/
theorem not_frozen_of_sequence (hs : s.Frozen w) (hopen : w.isOpen = true)
    {othersPlaying : Bool} (hpc : s.worker = .sequence)
    (h : s.workerStep inetPton othersPlaying = some t) : ¬ t.Frozen w := by
  intro ht
  have hsame : t.progress = s.progress := by
    rcases Bool.or_eq_true_iff.mp hopen with hstopped | hpaused
    · exact (ht.stopped hstopped).trans (hs.stopped hstopped).symm
    · obtain ⟨progress, hprogress⟩ := Option.isSome_iff_exists.mp hpaused
      exact (ht.paused progress hprogress).trans
        (hs.paused progress hprogress).symm
  rw [workerStep, hpc] at h
  obtain rfl := Option.some.inj h
  have hnext : s.session.nextSequenceId + 1 = s.session.nextSequenceId :=
    congrArg Progress.nextSequenceId hsame
  simp at hnext

end

/-- The session is registered at 60 Hz, plays, and the worker has gone
through a tick up to its last access. -/
def playedTick : List (PlaybackAction Float32) :=
  [[.call (.registerUdpEndpoint "127.0.0.1" 6000), .call (.setRate 60),
    .call .play, .control, .applyControlInput 1 1 0, .tick 1],
    List.replicate 7 (.worker false)].flatten

def loopbackPlayback : Lts (Playback Float32 × Windows Float32)
    (PlaybackAction Float32) :=
  recordedSystem NetworkControl.loopback

theorem loopbackPlayback_init :
    loopbackPlayback.init ({ session := .new 1 }, {}) :=
  ⟨⟨1, rfl⟩, rfl⟩

/-- The worker ends its tick before the command, and goes through another
one after it. -/
theorem frozen_while_not_playing_tick :
    ∃ x : Playback Float32 × Windows Float32, x.2.paused.isSome = true
      ∧ x.1.session.nextSequenceId = 1 ∧ x.1.Frozen x.2 := by
  obtain ⟨x, hx, hp⟩ := Lts.exists_reachableUnder loopbackPlayback ActsOnPlaying
    loopbackPlayback_init
    (playedTick ++ [.worker false, .call .pause, .control, .tick 2,
      .worker true, .worker true, .worker true, .applyControlInput 2 1 1])
    (fun x => x.2.paused.isSome && x.1.session.nextSequenceId == 1
      && x.1.worker == .waiting)
    (by decide +kernel)
  simp only [Bool.and_eq_true, beq_iff_eq] at hp
  exact ⟨x, hp.1.1, hp.1.2, frozen_while_not_playing hx⟩

/-- The worker tested before the command and takes its sequence id after
it. -/
theorem frozen_fails_late_sequence :
    (∃ x, loopbackPlayback.Reachable x ∧ x.2.stopped = true
      ∧ x.1.session.nextSequenceId = 1 ∧ ¬ x.1.Frozen x.2)
    ∧ ∃ x, loopbackPlayback.Reachable x
      ∧ x.2.paused.map (·.nextSequenceId) = some 0
      ∧ x.1.session.nextSequenceId = 1 ∧ ¬ x.1.Frozen x.2 := by
  constructor
  · obtain ⟨x, hx, hp⟩ := Lts.exists_reachable loopbackPlayback
      loopbackPlayback_init
      (playedTick ++ [.call .stop, .control, .control, .worker false])
      (fun x => x.2.stopped && x.1.session.nextSequenceId == 1)
      (by decide +kernel)
    simp only [Bool.and_eq_true, beq_iff_eq] at hp
    refine ⟨x, hx, hp.1, hp.2, fun hfrozen => ?_⟩
    have hzero : x.1.session.nextSequenceId = 0 :=
      congrArg Progress.nextSequenceId (hfrozen.stopped hp.1)
    rw [hp.2] at hzero
    exact absurd hzero (by decide)
  · obtain ⟨x, hx, hp⟩ := Lts.exists_reachable loopbackPlayback
      loopbackPlayback_init
      (playedTick ++ [.call .pause, .control, .worker false])
      (fun x => x.2.paused.map (·.nextSequenceId) == some 0
        && x.1.session.nextSequenceId == 1)
      (by decide +kernel)
    simp only [Bool.and_eq_true, beq_iff_eq] at hp
    refine ⟨x, hx, hp.1, hp.2, fun hfrozen => ?_⟩
    obtain ⟨progress, hprogress, hid⟩ := Option.map_eq_some_iff.mp hp.1
    have hsame : x.1.session.nextSequenceId = progress.nextSequenceId :=
      congrArg Progress.nextSequenceId (hfrozen.paused progress hprogress)
    rw [hp.2, hid] at hsame
    exact absurd hsame (by decide)

end Playback

end NetworkControl
