import Mathlib.Data.Finset.Card
import Mathlib.Order.GaloisConnection.Basic
import Mathlib.Order.Interval.Finset.Nat
import NetworkControl.Playback

/-!
# Catching up

The streaming worker in real time: `TimerCompensator::WaitForNextTick`
says how many ticks have gone by, and `UdpStreamingService::Worker` steps
the physics of a session that plays as many times. The threads are those
of `Playback`; here they act at points in time, and a step may come as late
as it likes.

A session is to be moved through the tick periods it played in, and no
more. The worker asks once, for the whole backlog, whether it plays: the
result holds in the runs where the answer was right for every tick of the
backlog (`BacklogPlayed`), as it is for a worker that is on time.
-/

namespace NetworkControl

/-! ## TimerCompensator -/

/-- The time of every tick, in nanoseconds from `startTime_`, and the tick
period that a time is in. -/
structure TickGrid where
  getTickTime : Nat → Nat
  period : Nat → Nat
  gc : GaloisConnection getTickTime period

namespace TickGrid

/-- `DataRate::Hz60`, with the cast to the clock's duration. -/
def hz60 : TickGrid where
  getTickTime tickCount := tickCount * 10 ^ 9 / 60
  period time := (60 * time + 59) / 10 ^ 9
  gc := by
    intro tickCount time
    rw [Nat.le_div_iff_mul_le (by decide), Nat.div_le_iff_le_mul_add_pred
      (by decide)]

variable (grid : TickGrid)

/-- The loop of `WaitForNextTick`: the tick to sleep until. -/
def nextTick (now tickCount : Nat) : Nat :=
  if grid.getTickTime (tickCount + 1) ≤ now then
    nextTick now (tickCount + 1)
  else tickCount + 1
termination_by grid.period now - tickCount
decreasing_by
  rename_i hdue
  have hle := (grid.gc (tickCount + 1) now).mp hdue
  omega

theorem lt_nextTick (now tickCount : Nat) :
    tickCount < grid.nextTick now tickCount := by
  fun_induction nextTick grid now tickCount with
  | case1 tickCount hdue ih => exact (Nat.lt_succ_self _).trans ih
  | case2 tickCount hdue => exact Nat.lt_succ_self _

end TickGrid

/-! ## The worker in time -/

/-- `previousTickCount` is set while the worker sleeps in
`WaitForNextTick`; `tickCount` is then the tick it sleeps until. -/
structure TimedPlayback (F : Type) where
  playback : Playback F
  now : Nat := 0
  tickCount : Nat := 0
  previousTickCount : Option Nat := none

/-- `advance` is time that passes, whoever is kept waiting. -/
inductive TimedAction (F : Type) where
  | advance (elapsed : Nat)
  | wait
  | wake
  | playback (action : PlaybackAction F)

/-- The tick periods in which the session was in state Playing at some
time, and the calls of `StepPhysics` it received. -/
structure PlayedTime where
  periods : Finset Nat := ∅
  steps : Nat := 0

namespace PlayedTime

/-- The periods that the ticks up to `tick` account for. -/
def upTo (played : PlayedTime) (tick : Nat) : Finset Nat :=
  played.periods.filter (· ≤ tick)

theorem card_upTo_mono {played played' : PlayedTime}
    {tick tick' : Nat} (hperiods : played.periods ⊆ played'.periods)
    (htick : tick ≤ tick') :
    (played.upTo tick).card ≤ (played'.upTo tick').card := by
  refine Finset.card_le_card fun period hperiod => ?_
  obtain ⟨hmem, hle⟩ := Finset.mem_filter.mp hperiod
  exact Finset.mem_filter.mpr ⟨hperiods hmem, hle.trans htick⟩

/-- A backlog that was played throughout. -/
theorem card_upTo_backlog {played : PlayedTime}
    {backlog tick : Nat} (hle : backlog ≤ tick)
    (hplayed : Finset.Ioc (tick - backlog) tick ⊆ played.periods) :
    (played.upTo (tick - backlog)).card + backlog
      ≤ (played.upTo tick).card := by
  have hdisjoint : Disjoint (played.upTo (tick - backlog))
      (Finset.Ioc (tick - backlog) tick) := by
    rw [Finset.disjoint_left]
    intro period hold hnew
    have hbefore := (Finset.mem_filter.mp hold).2
    have hafter := (Finset.mem_Ioc.mp hnew).1
    omega
  have hcard : (Finset.Ioc (tick - backlog) tick).card = backlog := by
    rw [Nat.card_Ioc]
    omega
  have hunion := Finset.card_union_of_disjoint hdisjoint
  rw [hcard] at hunion
  rw [← hunion]
  refine Finset.card_le_card (Finset.union_subset ?_ ?_)
  · intro period hperiod
    obtain ⟨hmem, hbefore⟩ := Finset.mem_filter.mp hperiod
    exact Finset.mem_filter.mpr ⟨hmem, by omega⟩
  · intro period hperiod
    exact Finset.mem_filter.mpr
      ⟨hplayed hperiod, (Finset.mem_Ioc.mp hperiod).2⟩

end PlayedTime

namespace StreamingPc

/-- Ticks that were waited for and not yet looked at. -/
def backlog : StreamingPc → Nat
  | testPhysics elapsedTicks => elapsedTicks
  | _ => 0

/-- Calls of `StepPhysics` still to come for them. -/
def stepsLeft : StreamingPc → Nat
  | stepping left => left
  | _ => 0

end StreamingPc

namespace TimedPlayback

section

variable {F : Type} [FloatArith F] (grid : TickGrid)
  (inetPton : String → Option UInt32)

/-- The ticks the worker is through with. -/
def handled (s : TimedPlayback F) : Nat :=
  s.previousTickCount.getD (s.tickCount - s.playback.worker.backlog)

def step (s : TimedPlayback F) :
    TimedAction F → Option (TimedPlayback F)
  | .advance elapsed => some { s with now := s.now + elapsed }
  | .wait =>
      if s.playback.worker = .waiting ∧ s.previousTickCount = none then
        some { s with
          tickCount := grid.nextTick s.now s.tickCount
          previousTickCount := some s.tickCount }
      else none
  | .wake =>
      match s.previousTickCount with
      | none => none
      | some previousTickCount =>
          if grid.getTickTime s.tickCount ≤ s.now then
            (s.playback.step inetPton
              (.tick (UInt64.ofNat (s.tickCount - previousTickCount)))).map
                fun playback =>
                  { s with playback, previousTickCount := none }
          else none
  | .playback (.tick _) => none
  | .playback action =>
      (s.playback.step inetPton action).map fun playback =>
        { s with playback }

/-- What an action adds to the session's playing time and its steps. -/
def recordPlayed (s : TimedPlayback F) (a : TimedAction F)
    (played : PlayedTime) : PlayedTime :=
  match a with
  | .advance elapsed =>
      if s.playback.session.state = .playing then
        { played with
          periods := played.periods
            ∪ Finset.Icc (grid.period s.now) (grid.period (s.now + elapsed)) }
      else played
  | .playback .control =>
      if s.playback.control = .playStore then
        { played with periods := insert (grid.period s.now) played.periods }
      else played
  | .playback (.worker _) =>
      if 0 < s.playback.worker.stepsLeft then
        { played with steps := played.steps + 1 }
      else played
  | _ => played

/-- `Worker` from the construction of its timer on, and one session. -/
def system : Lts (TimedPlayback F × PlayedTime) (TimedAction F) :=
  Lts.recording
    { init := fun s => ∃ sessionId,
        s = { playback := { session := .new sessionId } }
      step := step grid inetPton } (recordPlayed grid) {}

/-- A worker that finds the session playing finds it to have played in
every tick period of the backlog. -/
def BacklogPlayed (x : TimedPlayback F × PlayedTime) :
    TimedAction F → Prop
  | .playback (.worker _) =>
      x.1.playback.session.state = .playing →
        Finset.Ioc (x.1.tickCount - x.1.playback.worker.backlog)
          x.1.tickCount ⊆ x.2.periods
  | _ => True

instance (x : TimedPlayback F × PlayedTime) :
    (a : TimedAction F) → Decidable (BacklogPlayed x a)
  | .playback (.worker _) => inferInstanceAs (Decidable (_ → _))
  | .playback (.tick _) | .playback (.call _) | .playback .control
  | .playback (.applyControlInput _ _ _) => .isTrue trivial
  | .advance _ | .wait | .wake => .isTrue trivial

end

/-! ## What the steps of the threads do to the backlog -/

section

variable {F : Type} [FloatArith F] {inetPton : String → Option UInt32}
  {s t : Playback F}

omit [FloatArith F] in
/-- An access that neither tests the backlog nor makes a step of it. -/
theorem backlog_moved {pc worker : StreamingPc} (hpc : s.worker = pc)
    (hfrom : pc.backlog = 0 ∧ pc.stepsLeft = 0)
    (hto : worker.backlog = 0 ∧ worker.stepsLeft = 0)
    (h : some { s with worker } = some t) :
    t.session.state = s.session.state ∧ t.worker.backlog = 0
      ∧ t.worker.stepsLeft
        = if s.session.state = .playing then
            s.worker.stepsLeft - 1 + s.worker.backlog
          else s.worker.stepsLeft - 1 := by
  obtain rfl := Option.some.inj h
  rw [hpc, hfrom.1, hfrom.2, ite_self]
  exact ⟨rfl, hto⟩

/-- The worker's next access, as far as the backlog is concerned. -/
theorem workerStep_backlog {othersPlaying : Bool}
    (h : s.workerStep inetPton othersPlaying = some t) :
    t.session.state = s.session.state ∧ t.worker.backlog = 0
      ∧ t.worker.stepsLeft
        = if s.session.state = .playing then
            s.worker.stepsLeft - 1 + s.worker.backlog
          else s.worker.stepsLeft - 1 := by
  unfold Playback.workerStep at h
  split at h
  · cases h
  · rename_i elapsedTicks hpc
    rw [hpc]
    split at h
    · rename_i hstate
      obtain rfl := Option.some.inj h
      rw [if_pos hstate]
      exact ⟨rfl, rfl, (Nat.zero_add _).symm⟩
    · rename_i hstate
      obtain rfl := Option.some.inj h
      rw [if_neg hstate]
      exact ⟨rfl, rfl, rfl⟩
  · rename_i left hpc
    obtain rfl := Option.some.inj h
    rw [hpc]
    split <;> exact ⟨rfl, rfl, rfl⟩
  · rename_i hpc
    exact backlog_moved hpc ⟨rfl, rfl⟩ ⟨rfl, rfl⟩ h
  · rename_i hpc
    split at h
    · exact backlog_moved hpc ⟨rfl, rfl⟩ ⟨rfl, rfl⟩ h
    · exact backlog_moved hpc ⟨rfl, rfl⟩ ⟨rfl, rfl⟩ h
  · rename_i hpc
    split at h
    · exact backlog_moved hpc ⟨rfl, rfl⟩ ⟨rfl, rfl⟩ h
    · exact backlog_moved hpc ⟨rfl, rfl⟩ ⟨rfl, rfl⟩ h
  · rename_i hpc
    split at h
    · exact backlog_moved hpc ⟨rfl, rfl⟩ ⟨rfl, rfl⟩ h
    · exact backlog_moved hpc ⟨rfl, rfl⟩ ⟨rfl, rfl⟩ h
  · rename_i hpc
    split at h
    · exact backlog_moved hpc ⟨rfl, rfl⟩ ⟨rfl, rfl⟩ h
    · split at h
      · exact backlog_moved hpc ⟨rfl, rfl⟩ ⟨rfl, rfl⟩ h
      · exact backlog_moved hpc ⟨rfl, rfl⟩ ⟨rfl, rfl⟩ h
  · rename_i hpc
    obtain rfl := Option.some.inj h
    rw [hpc]
    split <;> exact ⟨rfl, rfl, rfl⟩

/-- The other threads leave the worker where it is, and only the store of
a Play makes the session play. -/
theorem step_others {a : PlaybackAction F}
    (h : s.step inetPton a = some t)
    (hworker : ∀ othersPlaying, a ≠ .worker othersPlaying)
    (htick : ∀ elapsedTicks, a ≠ .tick elapsedTicks) :
    t.worker = s.worker ∧ (t.session.state = .playing →
      s.session.state = .playing ∨ a = .control ∧ s.control = .playStore) := by
  cases a with
  | tick elapsedTicks => exact absurd rfl (htick elapsedTicks)
  | worker othersPlaying => exact absurd rfl (hworker othersPlaying)
  | call command =>
      rw [Playback.step] at h
      split at h
      · obtain rfl := Option.some.inj h
        cases command with
        | setRate dataRateHz =>
            refine ⟨rfl, fun hplaying => Or.inl ?_⟩
            simp only [Playback.call, ClientSession.setRate] at hplaying
            split at hplaying
            · exact hplaying
            · split at hplaying <;> exact hplaying
        | stop => exact ⟨rfl, fun hplaying => by cases hplaying⟩
        | _ => exact ⟨rfl, Or.inl⟩
      · cases h
  | control =>
      rw [Playback.step, Playback.controlStep] at h
      split at h
      · cases h
      · obtain rfl := Option.some.inj h
        exact ⟨rfl, Or.inl⟩
      · rename_i hcontrol
        obtain rfl := Option.some.inj h
        exact ⟨rfl, fun _ => Or.inr ⟨rfl, hcontrol⟩⟩
      · obtain rfl := Option.some.inj h
        exact ⟨rfl, fun hplaying => by cases hplaying⟩
      · obtain rfl := Option.some.inj h
        exact ⟨rfl, Or.inl⟩
      · obtain rfl := Option.some.inj h
        exact ⟨rfl, Or.inl⟩
  | applyControlInput sequenceId throttle yaw =>
      obtain rfl := Option.some.inj h
      refine ⟨rfl, fun hplaying => Or.inl ?_⟩
      simp only [ClientSession.applyControlInput] at hplaying
      split at hplaying <;> exact hplaying

end

/-! ## Every step has its period -/

section

variable {F : Type}

/-- The steps made and still to come are those of played periods, of ticks
the worker is through with. -/
structure Accounted (grid : TickGrid) (s : TimedPlayback F)
    (played : PlayedTime) : Prop where
  playing : s.playback.session.state = .playing →
    grid.period s.now ∈ played.periods
  asleep : ∀ previousTickCount,
    s.previousTickCount = some previousTickCount →
    s.playback.worker = .waiting ∧ previousTickCount ≤ s.tickCount
  backlog : s.playback.worker.backlog ≤ s.tickCount
  steps : played.steps + s.playback.worker.stepsLeft
    ≤ (played.upTo s.handled).card

variable [FloatArith F] {grid : TickGrid} {inetPton : String → Option UInt32}
  {s : TimedPlayback F} {played : PlayedTime} {playback : Playback F}

omit [FloatArith F] in
theorem Accounted.awake (hs : Accounted grid s played)
    (hworker : s.playback.worker ≠ .waiting) :
    s.previousTickCount = none := by
  cases hprevious : s.previousTickCount with
  | none => rfl
  | some previousTickCount =>
      exact absurd (hs.asleep previousTickCount hprevious).1 hworker

omit [FloatArith F] in
theorem Accounted.advance (hs : Accounted grid s played) (elapsed : Nat) :
    Accounted grid { s with now := s.now + elapsed }
      (s.recordPlayed grid (.advance elapsed) played) := by
  simp only [recordPlayed]
  split
  · refine ⟨fun _ => ?_, hs.asleep, hs.backlog, ?_⟩
    · refine Finset.mem_union_right _ (Finset.mem_Icc.mpr ⟨?_, le_rfl⟩)
      exact grid.gc.monotone_u (Nat.le_add_right _ _)
    · exact hs.steps.trans (PlayedTime.card_upTo_mono
        Finset.subset_union_left le_rfl)
  · rename_i hstate
    exact ⟨fun hplaying => absurd hplaying hstate, hs.asleep, hs.backlog,
      hs.steps⟩

omit [FloatArith F] in
theorem Accounted.wait (hs : Accounted grid s played)
    (hworker : s.playback.worker = .waiting)
    (hawake : s.previousTickCount = none) :
    Accounted grid { s with
      tickCount := grid.nextTick s.now s.tickCount
      previousTickCount := some s.tickCount } played := by
  have hlater := (grid.lt_nextTick s.now s.tickCount).le
  refine ⟨hs.playing, fun previousTickCount hprevious => ?_,
    hs.backlog.trans hlater, ?_⟩
  · obtain rfl := Option.some.inj hprevious
    exact ⟨hworker, hlater⟩
  · have hhandled : s.handled = s.tickCount := by
      rw [handled, hawake, hworker]
      rfl
    rw [← hhandled]
    exact hs.steps

/-- The timer returns: the ticks since the last call are the backlog. -/
theorem Accounted.wake (hs : Accounted grid s played)
    {previousTickCount : Nat}
    (hasleep : s.previousTickCount = some previousTickCount)
    (h : s.playback.step inetPton
      (.tick (UInt64.ofNat (s.tickCount - previousTickCount)))
        = some playback) :
    Accounted grid { s with playback, previousTickCount := none }
      played := by
  have hle := (hs.asleep previousTickCount hasleep).2
  rw [Playback.step] at h
  split at h
  · rename_i hwaiting
    obtain rfl := Option.some.inj h
    have helapsed : (UInt64.ofNat (s.tickCount - previousTickCount)).toNat
        ≤ s.tickCount - previousTickCount := by
      rw [UInt64.toNat_ofNat']
      exact Nat.mod_le _ _
    refine ⟨hs.playing, fun _ hprevious => (by cases hprevious),
      helapsed.trans (Nat.sub_le _ _), ?_⟩
    have hsteps := hs.steps
    rw [hwaiting, handled, hasleep] at hsteps
    refine hsteps.trans (PlayedTime.card_upTo_mono subset_rfl ?_)
    show previousTickCount ≤ s.tickCount - _
    simp only [StreamingPc.backlog]
    omega
  · cases h

/-- The worker looks at the backlog, makes one of its steps, or goes on. -/
theorem Accounted.worker (hs : Accounted grid s played)
    {othersPlaying : Bool}
    (hplayed : BacklogPlayed (s, played)
      (.playback (.worker othersPlaying)))
    (h : s.playback.workerStep inetPton othersPlaying = some playback) :
    Accounted grid { s with playback }
      (s.recordPlayed grid (.playback (.worker othersPlaying)) played) := by
  have hawake := hs.awake fun hwaiting => by
    rw [Playback.workerStep, hwaiting] at h
    cases h
  obtain ⟨hstate, hbacklog, hleft⟩ := workerStep_backlog h
  have hrecord : (s.recordPlayed grid (.playback (.worker othersPlaying))
        played).periods = played.periods
      ∧ (s.recordPlayed grid (.playback (.worker othersPlaying))
          played).steps + (s.playback.worker.stepsLeft - 1)
        = played.steps + s.playback.worker.stepsLeft := by
    simp only [recordPlayed]
    split
    · exact ⟨rfl, by dsimp only; omega⟩
    · exact ⟨rfl, by omega⟩
  have hsteps := hs.steps
  rw [handled, hawake, Option.getD_none] at hsteps
  refine ⟨fun hplaying => ?_, fun _ hprevious => ?_, ?_, ?_⟩
  · rw [hrecord.1]
    exact hs.playing (hstate.symm.trans hplaying)
  · rw [show s.previousTickCount = some _ from hprevious] at hawake
    cases hawake
  · rw [hbacklog]
    exact Nat.zero_le _
  · have hhandled : handled { s with playback } = s.tickCount := by
      rw [handled, hawake, hbacklog]
      rfl
    rw [hhandled, hleft, PlayedTime.upTo, hrecord.1]
    split
    · rename_i hplaying
      have hcovered : Finset.Ioc
          (s.tickCount - s.playback.worker.backlog) s.tickCount
          ⊆ played.periods := hplayed hplaying
      have hcard := PlayedTime.card_upTo_backlog hs.backlog hcovered
      unfold PlayedTime.upTo at hcard hsteps
      omega
    · have hcard := PlayedTime.card_upTo_mono (subset_refl played.periods)
        (Nat.sub_le s.tickCount s.playback.worker.backlog)
      unfold PlayedTime.upTo at hcard hsteps
      omega

/-- A command's access, or an input's. -/
theorem Accounted.others (hs : Accounted grid s played)
    {a : PlaybackAction F} (h : s.playback.step inetPton a = some playback)
    (hworker : ∀ othersPlaying, a ≠ .worker othersPlaying)
    (htick : ∀ elapsedTicks, a ≠ .tick elapsedTicks) :
    Accounted grid { s with playback }
      (s.recordPlayed grid (.playback a) played) := by
  obtain ⟨hpc, hplaying⟩ := step_others h hworker htick
  have hrecord : played.periods
        ⊆ (s.recordPlayed grid (.playback a) played).periods
      ∧ (s.recordPlayed grid (.playback a) played).steps = played.steps
      ∧ (a = .control ∧ s.playback.control = .playStore →
        grid.period s.now
          ∈ (s.recordPlayed grid (.playback a) played).periods) := by
    cases a with
    | tick elapsedTicks => exact absurd rfl (htick elapsedTicks)
    | worker othersPlaying => exact absurd rfl (hworker othersPlaying)
    | control =>
        simp only [recordPlayed]
        split
        · exact ⟨Finset.subset_insert _ _, rfl,
            fun _ => Finset.mem_insert_self _ _⟩
        · rename_i hcontrol
          exact ⟨subset_rfl, rfl, fun hplay => absurd hplay.2 hcontrol⟩
    | call command => exact ⟨subset_rfl, rfl, fun hplay => nomatch hplay.1⟩
    | applyControlInput sequenceId throttle yaw =>
        exact ⟨subset_rfl, rfl, fun hplay => nomatch hplay.1⟩
  have hhandled : handled { s with playback } = s.handled := by
    rw [handled, handled, hpc]
  refine ⟨fun hnow => ?_, ?_, ?_, ?_⟩
  · rcases hplaying hnow with hbefore | hplay
    · exact hrecord.1 (hs.playing hbefore)
    · exact hrecord.2.2 hplay
  · rw [hpc]
    exact hs.asleep
  · rw [hpc]
    exact hs.backlog
  · rw [hrecord.2.1, hhandled, hpc]
    exact hs.steps.trans (PlayedTime.card_upTo_mono hrecord.1 le_rfl)

omit [FloatArith F] in
/-- A worker that looks at its one tick before the next one is due. -/
theorem Accounted.onTime (hs : Accounted grid s played)
    (hbacklog : s.playback.worker.backlog = 1)
    (hdue : grid.getTickTime s.tickCount ≤ s.now)
    (hnow : s.now < grid.getTickTime (s.tickCount + 1))
    (othersPlaying : Bool) :
    BacklogPlayed (s, played) (.playback (.worker othersPlaying)) := by
  intro hplaying tick htick
  have hlast := Finset.mem_Ioc.mp htick
  have hperiod : s.tickCount ≤ grid.period s.now :=
    (grid.gc s.tickCount s.now).mp hdue
  have hnext : grid.period s.now < s.tickCount + 1 := by
    by_contra hle
    have hlate := (grid.gc (s.tickCount + 1) s.now).mpr (Nat.not_lt.mp hle)
    omega
  have hsame : tick = grid.period s.now := by
    have hfirst : s.tickCount - s.playback.worker.backlog < tick := hlast.1
    have hle : tick ≤ s.tickCount := hlast.2
    omega
  rw [hsame]
  exact hs.playing hplaying

theorem step_others_eq {a : PlaybackAction F}
    (htick : ∀ elapsedTicks, a ≠ .tick elapsedTicks) :
    s.step grid inetPton (.playback a)
      = (s.playback.step inetPton a).map fun playback =>
          { s with playback } := by
  cases a with
  | tick elapsedTicks => exact absurd rfl (htick elapsedTicks)
  | _ => rfl

theorem accounted_step {a : TimedAction F} {t : TimedPlayback F}
    (hs : Accounted grid s played) (hok : BacklogPlayed (s, played) a)
    (h : s.step grid inetPton a = some t) :
    Accounted grid t (s.recordPlayed grid a played) := by
  cases a with
  | advance elapsed =>
      obtain rfl := Option.some.inj h
      exact hs.advance elapsed
  | wait =>
      rw [step] at h
      split at h
      · rename_i hwait
        obtain rfl := Option.some.inj h
        exact hs.wait hwait.1 hwait.2
      · cases h
  | wake =>
      rw [step] at h
      split at h
      · cases h
      · rename_i previousTickCount hasleep
        split at h
        · obtain ⟨playback, hplayback, rfl⟩ := Option.map_eq_some_iff.mp h
          exact hs.wake hasleep hplayback
        · cases h
  | playback a =>
      cases a with
      | tick elapsedTicks => cases h
      | worker othersPlaying =>
          obtain ⟨playback, hplayback, rfl⟩ := Option.map_eq_some_iff.mp h
          exact hs.worker hok hplayback
      | _ =>
          rw [step_others_eq] at h
          · obtain ⟨playback, hplayback, rfl⟩ := Option.map_eq_some_iff.mp h
            exact hs.others hplayback (fun _ h => (nomatch h))
              fun _ h => nomatch h
          · exact fun _ h => nomatch h

theorem accounted_reachable {x : TimedPlayback F × PlayedTime}
    (h : (system grid inetPton).ReachableUnder BacklogPlayed x) :
    Accounted grid x.1 x.2 := by
  refine h.invariant (I := fun x => Accounted grid x.1 x.2) ?_ ?_
  · rintro ⟨s, played⟩ ⟨⟨sessionId, rfl⟩, rfl⟩
    exact ⟨fun hplaying => (nomatch hplaying),
      fun _ hprevious => (nomatch hprevious), le_rfl, Nat.zero_le _⟩
  · rintro ⟨s, played⟩ a ⟨t, played'⟩ hs hok hstep
    obtain ⟨hstep, hrecord⟩ := Lts.recording_step hstep
    rw [hrecord]
    exact accounted_step hs hok hstep

/-- A session is not stepped through more tick periods than it played
in. -/
theorem steps_le_periods {x : TimedPlayback F × PlayedTime}
    (h : (system grid inetPton).ReachableUnder BacklogPlayed x) :
    x.2.steps ≤ x.2.periods.card := by
  have hsteps := (accounted_reachable h).steps
  have hcard := Finset.card_filter_le x.2.periods (· ≤ x.1.handled)
  unfold PlayedTime.upTo at hsteps
  omega

end

def loopbackTicks :
    Lts (TimedPlayback Float32 × PlayedTime) (TimedAction Float32) :=
  system .hz60 NetworkControl.loopback

/-- `n` accesses of the worker. -/
def accesses (n : Nat) : List (TimedAction Float32) :=
  List.replicate n (.playback (.worker false))

/-- The session plays from the start; the worker is late for the second
tick, and makes up for five. -/
theorem steps_le_periods_stalled :
    ∃ x : TimedPlayback Float32 × PlayedTime, x.2.steps = 7
      ∧ x.2.steps ≤ x.2.periods.card := by
  obtain ⟨x, hx, hp⟩ := Lts.exists_reachableUnder loopbackTicks BacklogPlayed
    (s := ({ playback := { session := .new 1 } }, {})) ⟨⟨1, rfl⟩, rfl⟩
    ([.wait, .playback (.call .play), .playback .control,
        .advance 20000000, .wake]
      ++ accesses 6 ++ [.wait, .advance 80000000, .wake]
      ++ accesses 7 ++ [.wait, .advance 17000000, .wake]
      ++ accesses 10)
    (fun x => x.2.steps == 7) (by decide +kernel)
  exact ⟨x, eq_of_beq hp, steps_le_periods hx⟩

/-- A stall of ten ticks with a Play at its end: the session is stepped
ten times, for two tick periods that it played in. -/
theorem backlog_unplayed :
    ∃ x, loopbackTicks.Reachable x ∧ x.2.steps = 10
      ∧ x.2.periods = {10, 11} ∧ ¬ x.2.steps ≤ x.2.periods.card := by
  obtain ⟨x, hx, hp⟩ := Lts.exists_reachable loopbackTicks
    (s := ({ playback := { session := .new 1 } }, {})) ⟨⟨1, rfl⟩, rfl⟩
    ([.wait, .advance 180000000, .wake] ++ accesses 2
      ++ [.wait, .advance 1000000, .playback (.call .play),
        .playback .control, .advance 3000000, .wake]
      ++ accesses 11)
    (fun x => x.2.steps == 10 && x.2.periods == {10, 11}) (by decide +kernel)
  simp only [Bool.and_eq_true, beq_iff_eq] at hp
  refine ⟨x, hx, hp.1, hp.2, ?_⟩
  rw [hp.1, hp.2]
  decide

end TimedPlayback

end NetworkControl
