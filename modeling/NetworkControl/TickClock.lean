import Mathlib.Order.Bounds.Basic
import NetworkControl.CatchUp
import NetworkControl.ReachableSpeed

/-!
# The tick clock

`Common/TimerCompensator.h`, with tick times taken exactly, and the worker
that steps the physics as many times as it says. A round is one iteration
of the worker: whenever the timer looks at the clock, and however late
`sleep_until` returns, it ends with every tick accounted for once that was
due by then, and none that was not.
-/

namespace NetworkControl

open FloatArith

/-! ## TimerCompensator -/

/-- The ticks of a rate, in nanoseconds from `startTime_`. -/
def TickGrid.ofRate (dataRate : DataRate) : TickGrid where
  getTickTime tickCount := tickCount * 10 ^ 9 / dataRate.toUInt32.toNat
  period time := (dataRate.toUInt32.toNat * time
    + (dataRate.toUInt32.toNat - 1)) / 10 ^ 9
  gc := by
    intro tickCount time
    have hpos : 0 < dataRate.toUInt32.toNat := by
      cases dataRate <;> decide
    rw [Nat.le_div_iff_mul_le (by decide), Nat.div_le_iff_le_mul_add_pred
      hpos]

/-- Time points are nanoseconds. -/
structure TimerCompensator where
  dataRate : DataRate
  startTime : Nat
  tickCount : Nat := 0

namespace TimerCompensator

section

variable (timer : TimerCompensator)

def reset (now : Nat) : TimerCompensator :=
  { timer with startTime := now, tickCount := 0 }

def getTickTime (tickCount : Nat) : Nat :=
  timer.startTime + (TickGrid.ofRate timer.dataRate).getTickTime tickCount

theorem getTickTime_le_iff {now tickCount : Nat}
    (hstart : timer.startTime ≤ now) :
    timer.getTickTime tickCount ≤ now ↔ tickCount
      ≤ (TickGrid.ofRate timer.dataRate).period (now - timer.startTime) := by
  rw [← (TickGrid.ofRate timer.dataRate).gc tickCount, getTickTime]
  omega

/-- The loop of `WaitForNextTick`, from its `++tickCount_` on: the tick it
stops at, and the time of that tick. -/
def nextTick (now tickCount : Nat) : Nat × Nat :=
  let tickCount' := tickCount + 1
  let nextTick' := timer.getTickTime tickCount'
  if nextTick' ≤ now then nextTick now tickCount' else (tickCount', nextTick')
termination_by
  (TickGrid.ofRate timer.dataRate).period (now - timer.startTime) - tickCount
decreasing_by
  rename_i hdue
  have hstart : timer.startTime ≤ now := (Nat.le_add_right _ _).trans hdue
  have hle := (timer.getTickTime_le_iff hstart).mp hdue
  omega

/-- `now` is the reading of the clock, and `overshoot` how late
`sleep_until` returns: the ticks that went by and the time it is then. -/
def waitForNextTick (now overshoot : Nat) :
    (Nat × Nat) × TimerCompensator :=
  let previousTickCount := timer.tickCount
  let (tickCount, nextTick) := timer.nextTick now timer.tickCount
  ((tickCount - previousTickCount, nextTick + overshoot),
    { timer with tickCount })

/-- It sleeps until the time of the tick it stops at: the next one that is
not due. -/
theorem nextTick_spec (now tickCount : Nat) :
    (timer.nextTick now tickCount).2
        = timer.getTickTime (timer.nextTick now tickCount).1
      ∧ IsLeast {k | tickCount < k ∧ now < timer.getTickTime k}
        (timer.nextTick now tickCount).1 := by
  fun_induction nextTick timer now tickCount with
  | case1 tickCount tickCount' nextTick' hdue ih =>
      obtain ⟨htime, ⟨hlt, hnow⟩, hleast⟩ := ih
      refine ⟨htime, ⟨(Nat.lt_succ_self _).trans hlt, hnow⟩, ?_⟩
      rintro k ⟨hk, hafter⟩
      refine hleast ⟨lt_of_le_of_ne hk ?_, hafter⟩
      rintro rfl
      exact absurd hdue (Nat.not_le.mpr hafter)
  | case2 tickCount tickCount' nextTick' hlater =>
      refine ⟨rfl, ⟨Nat.lt_succ_self _, Nat.not_le.mp hlater⟩, ?_⟩
      rintro k ⟨hk, -⟩
      exact hk

theorem getTickTime_mono : Monotone timer.getTickTime := fun _ _ h =>
  Nat.add_le_add_left ((TickGrid.ofRate timer.dataRate).gc.monotone_l h) _

/-- Every tick that is due lies before it. -/
theorem lt_nextTick_of_due {now k : Nat} (tickCount : Nat)
    (h : timer.getTickTime k ≤ now) :
    k < (timer.nextTick now tickCount).1 := by
  obtain ⟨-, ⟨-, hlater⟩, -⟩ := timer.nextTick_spec now tickCount
  by_contra hle
  have hmono := timer.getTickTime_mono (Nat.not_lt.mp hle)
  exact absurd (hlater.trans_le hmono) (Nat.not_lt.mpr h)

/-- The larger of the next tick and the first one that is not due. -/
theorem nextTick_eq_max (now tickCount : Nat) :
    ∃ least, IsLeast {k | now < timer.getTickTime k} least
      ∧ (timer.nextTick now tickCount).1 = max (tickCount + 1) least := by
  obtain ⟨-, ⟨hlt, hnow⟩, hleast⟩ := timer.nextTick_spec now tickCount
  have hlater : ∃ k, now < timer.getTickTime k := ⟨_, hnow⟩
  refine ⟨Nat.find hlater, ⟨Nat.find_spec hlater, fun k hk =>
    Nat.find_min' hlater hk⟩, le_antisymm ?_ ?_⟩
  · refine hleast ⟨Nat.lt_of_succ_le (le_max_left _ _), ?_⟩
    exact (Nat.find_spec hlater).trans_le
      (timer.getTickTime_mono (le_max_right _ _))
  · exact max_le hlt (Nat.find_min' hlater hnow)

end

end TimerCompensator

/-! ## The worker -/

/-- One iteration of `Worker`: the reading of the clock, the lateness of
`sleep_until`, and the calls that other threads make on the session until
the worker looks at it. -/
structure WorkerRound (F : Type) where
  now : Nat
  overshoot : Nat
  calls : List (SessionCall F)

/-- The timer and one session. `returned` collects what `WaitForNextTick`
returned, `wakeTime` is when it last did, and `received` collects the calls
on the session. -/
structure TickRun (F : Type) where
  timer : TimerCompensator
  session : ClientSession F
  returned : List Nat := []
  wakeTime : Nat := 0
  received : List (SessionCall F) := []

namespace TickRun

section

variable {F : Type} [FloatArith F] (clientIp : String)

/-- The calls of `StepPhysics` for a number of ticks. -/
def tickCalls (elapsedTicks : UInt64) : List (SessionCall F) :=
  List.replicate elapsedTicks.toNat
    (.udpThread (.stepPhysics fixedDeltaSeconds))

def round (s : TickRun F) (r : WorkerRound F) : TickRun F :=
  let ((elapsedTicks, wakeTime), timer) :=
    s.timer.waitForNextTick r.now r.overshoot
  let session := SessionCall.runAll clientIp s.session r.calls
  { timer
    session := stepElapsed (UInt64.ofNat elapsedTicks) session
    returned := s.returned ++ [elapsedTicks]
    wakeTime
    received := s.received ++ r.calls
      ++ if session.state = .playing then
          tickCalls (UInt64.ofNat elapsedTicks)
        else [] }

def run (s : TickRun F) (rounds : List (WorkerRound F)) : TickRun F :=
  rounds.foldl (round clientIp) s

/-- A worker whose timer was reset at `startTime`. -/
def start (dataRate : DataRate) (startTime : Nat)
    (session : ClientSession F) : TickRun F where
  timer := { dataRate, startTime }
  session

def isTick : SessionCall F → Bool
  | .udpThread (.stepPhysics _) => true
  | _ => false

/-- The session plays whenever the worker looks at it, and nobody else
steps its physics. -/
def KeptPlaying (s : TickRun F) (rounds : List (WorkerRound F)) : Prop :=
  ∀ earlier r, earlier ++ [r] <+: rounds →
    (SessionCall.runAll clientIp (run clientIp s earlier).session
        r.calls).state = .playing
      ∧ ∀ call ∈ r.calls, isTick call = false

/-! ## Runs -/

variable {clientIp : String} {s : TickRun F} {r : WorkerRound F}
  {rounds : List (WorkerRound F)}

theorem run_concat (rounds : List (WorkerRound F)) (r : WorkerRound F) :
    run clientIp s (rounds ++ [r]) = (run clientIp s rounds).round clientIp r :=
  List.foldl_concat ..

theorem KeptPlaying.of_concat (h : KeptPlaying clientIp s (rounds ++ [r])) :
    KeptPlaying clientIp s rounds
      ∧ (SessionCall.runAll clientIp (run clientIp s rounds).session
          r.calls).state = .playing
      ∧ ∀ call ∈ r.calls, isTick call = false :=
  ⟨fun earlier r' hbegins =>
      h earlier r' (hbegins.trans (List.prefix_append _ _)),
    h rounds r (List.prefix_refl _)⟩

theorem keptPlaying_nil : KeptPlaying clientIp s [] :=
  fun earlier r hbegins => by simp at hbegins

theorem KeptPlaying.concat (h : KeptPlaying clientIp s rounds)
    (hplaying : (SessionCall.runAll clientIp (run clientIp s rounds).session
      r.calls).state = .playing)
    (hcalls : ∀ call ∈ r.calls, isTick call = false) :
    KeptPlaying clientIp s (rounds ++ [r]) := by
  intro earlier r' hbegins
  rcases List.prefix_concat_iff.mp hbegins with heq | hbefore
  · obtain ⟨rfl, hr⟩ := List.append_inj' heq rfl
    obtain rfl := List.singleton_inj.mp hr
    exact ⟨hplaying, hcalls⟩
  · exact h earlier r' hbefore

/-- The ticks leave the state alone. -/
theorem round_state (s : TickRun F) (r : WorkerRound F) :
    (s.round clientIp r).session.state
      = (SessionCall.runAll clientIp s.session r.calls).state :=
  stepElapsed_keeps ClientSession.state (fun _ => rfl) _ _

theorem round_tickCount (s : TickRun F) (r : WorkerRound F) :
    (s.round clientIp r).timer.tickCount
      = (s.timer.nextTick r.now s.timer.tickCount).1 := rfl

theorem tickCount_lt_round (clientIp : String) (s : TickRun F)
    (r : WorkerRound F) :
    s.timer.tickCount < (s.round clientIp r).timer.tickCount :=
  (s.timer.nextTick_spec r.now s.timer.tickCount).2.1.1

theorem runAll_tickCalls (elapsedTicks : UInt64)
    (session : ClientSession F) :
    SessionCall.runAll clientIp session (tickCalls elapsedTicks)
      = (fun s => s.stepPhysics fixedDeltaSeconds)^[elapsedTicks.toNat]
          session := by
  unfold tickCalls
  generalize elapsedTicks.toNat = n
  induction n generalizing session with
  | zero => rfl
  | succ n ih =>
      rw [List.replicate_succ, Function.iterate_succ_apply, ← ih]
      rfl

/-- What a round does to the session is what it received. -/
theorem round_session (session : ClientSession F)
    (h : s.session = SessionCall.runAll clientIp session s.received) :
    (s.round clientIp r).session
      = SessionCall.runAll clientIp session
          (s.round clientIp r).received := by
  have happend : ∀ calls calls' : List (SessionCall F),
      SessionCall.runAll clientIp session (calls ++ calls')
        = SessionCall.runAll clientIp
            (SessionCall.runAll clientIp session calls) calls' :=
    fun _ _ => List.foldl_append
  have hcalls : SessionCall.runAll clientIp s.session r.calls
      = SessionCall.runAll clientIp session (s.received ++ r.calls) := by
    rw [happend, ← h]
  show stepElapsed _ (SessionCall.runAll clientIp s.session r.calls)
    = SessionCall.runAll clientIp session (_ ++ ite _ _ _)
  rw [happend, ← hcalls, stepElapsed]
  split
  · exact (runAll_tickCalls _ _).symm
  · rfl

/-- The timer keeps its rate and its start, and what it returned adds up. -/
theorem run_timer (clientIp : String) (dataRate : DataRate)
    (startTime : Nat) (session : ClientSession F) (rounds : List (WorkerRound F)) :
    let s := run clientIp (start dataRate startTime session) rounds
    s.timer.dataRate = dataRate ∧ s.timer.startTime = startTime
      ∧ s.returned.sum = s.timer.tickCount
      ∧ s.session = SessionCall.runAll clientIp session s.received := by
  induction rounds using List.reverseRecOn with
  | nil => exact ⟨rfl, rfl, rfl, rfl⟩
  | append_singleton rounds r ih =>
      obtain ⟨hrate, hstart, hsum, hsession⟩ := ih
      rw [run_concat]
      generalize run clientIp (start dataRate startTime session) rounds = s
        at hrate hstart hsum hsession ⊢
      refine ⟨hrate, hstart, ?_, round_session session hsession⟩
      have hlt := tickCount_lt_round clientIp s r
      show (s.returned ++ [(s.round clientIp r).timer.tickCount
        - s.timer.tickCount]).sum = _
      rw [List.sum_append, List.sum_singleton, hsum]
      omega

theorem run_getTickTime (clientIp : String) (dataRate : DataRate)
    (startTime : Nat) (session : ClientSession F)
    (rounds : List (WorkerRound F)) :
    (run clientIp (start dataRate startTime session)
        rounds).timer.getTickTime
      = fun k => startTime + k * 10 ^ 9 / dataRate.toUInt32.toNat := by
  obtain ⟨hrate, hstart, -, -⟩ :=
    run_timer clientIp dataRate startTime session rounds
  unfold TimerCompensator.getTickTime
  rw [hrate, hstart]
  rfl

omit [FloatArith F] in
theorem countP_isTick_eq_zero {calls : List (SessionCall F)}
    (h : ∀ call ∈ calls, isTick call = false) : calls.countP isTick = 0 :=
  List.countP_eq_zero.mpr fun call hcall => by simp [h call hcall]

theorem countP_isTick_tickCalls (elapsedTicks : UInt64) :
    (tickCalls elapsedTicks : List (SessionCall F)).countP isTick
      = elapsedTicks.toNat := by
  rw [tickCalls, List.countP_replicate]
  rfl

/-- A session that plays receives a tick for each one that went by. -/
theorem round_received (hplaying : (SessionCall.runAll clientIp s.session
      r.calls).state = .playing)
    (hcalls : ∀ call ∈ r.calls, isTick call = false)
    (hrange : (s.round clientIp r).timer.tickCount < 2 ^ 64) :
    (s.round clientIp r).received.countP isTick
        = s.received.countP isTick
          + ((s.round clientIp r).timer.tickCount - s.timer.tickCount)
      ∧ (ClientSession.FixedTicks s.received →
        ClientSession.FixedTicks (s.round clientIp r).received) := by
  have helapsed : (UInt64.ofNat ((s.round clientIp r).timer.tickCount
      - s.timer.tickCount)).toNat
        = (s.round clientIp r).timer.tickCount - s.timer.tickCount :=
    UInt64.toNat_ofNat_of_lt' (by
      have hsize : UInt64.size = 2 ^ 64 := rfl
      omega)
  have hreceived : (s.round clientIp r).received
      = s.received ++ r.calls ++ tickCalls (UInt64.ofNat
          ((s.round clientIp r).timer.tickCount - s.timer.tickCount)) := by
    show s.received ++ r.calls ++ ite _ _ _ = _
    rw [if_pos hplaying]
    rfl
  rw [hreceived]
  constructor
  · rw [List.countP_append, List.countP_append,
      countP_isTick_eq_zero hcalls, countP_isTick_tickCalls, helapsed]
    rfl
  · intro hfixed dt hdt
    rcases List.mem_append.mp hdt with hbefore | hnew
    · rcases List.mem_append.mp hbefore with hold | hcall
      · exact hfixed dt hold
      · cases hcalls _ hcall
    · cases List.eq_of_mem_replicate hnew
      rfl

theorem run_received (clientIp : String) (dataRate : DataRate)
    (startTime : Nat) (session : ClientSession F) (rounds : List (WorkerRound F)) :
    let s := run clientIp (start dataRate startTime session) rounds
    s.timer.tickCount < 2 ^ 64 →
      KeptPlaying clientIp (start dataRate startTime session) rounds →
        s.received.countP isTick = s.timer.tickCount
          ∧ ClientSession.FixedTicks s.received := by
  induction rounds using List.reverseRecOn with
  | nil => exact fun _ _ => ⟨rfl, fun _ hdt => nomatch hdt⟩
  | append_singleton rounds r ih =>
      intro s hrange hplaying
      obtain ⟨hbefore, hstate, hcalls⟩ := hplaying.of_concat
      have hs : s = (run clientIp (start dataRate startTime session)
          rounds).round clientIp r := run_concat rounds r
      rw [hs] at hrange ⊢
      have hlt := tickCount_lt_round clientIp
        (run clientIp (start dataRate startTime session) rounds) r
      obtain ⟨hcount, hfixed⟩ := ih (hlt.trans hrange) hbefore
      obtain ⟨hnew, hkeeps⟩ := round_received hstate hcalls hrange
      refine ⟨?_, hkeeps hfixed⟩
      rw [hnew, hcount]
      omega

/-- The clock's 64 bits run out before those of the tick count. -/
theorem tickCount_lt_of_getTickTime {timer : TimerCompensator} {tick : Nat}
    (h : timer.getTickTime tick < 2 ^ 63) : tick < 2 ^ 64 := by
  have hgrid : (TickGrid.ofRate timer.dataRate).getTickTime tick
      ≤ 2 ^ 63 :=
    (Nat.le_add_left _ _).trans h.le
  have hperiod := ((TickGrid.ofRate timer.dataRate).gc tick _).mp hgrid
  refine hperiod.trans_lt ?_
  cases timer.dataRate <;> decide

/-- Whatever the clock reads and however late the worker wakes: a round
ends with the larger of the next tick and the first one that is not due,
every tick that was due when it looked at the clock is behind it, the tick
it ends with is due when it wakes, and a session that stays Playing has
received exactly as many calls of `StepPhysics`. -/
theorem ticks_without_drift (clientIp : String) (dataRate : DataRate)
    (startTime : Nat) (session : ClientSession F)
    (earlier : List (WorkerRound F)) (r : WorkerRound F) :
    let start := start dataRate startTime session
    let before := run clientIp start earlier
    let after := run clientIp start (earlier ++ [r])
    let tickTime := fun k : Nat =>
      startTime + k * 10 ^ 9 / dataRate.toUInt32.toNat
    (∃ least, IsLeast {k | r.now < tickTime k} least
        ∧ after.timer.tickCount = max (before.timer.tickCount + 1) least)
      ∧ after.returned.sum = after.timer.tickCount
      ∧ tickTime after.timer.tickCount ≤ after.wakeTime
      ∧ (∀ k, tickTime k ≤ r.now → k < after.timer.tickCount)
      ∧ (after.wakeTime < 2 ^ 63 →
          KeptPlaying clientIp start (earlier ++ [r]) →
            after.session
                = SessionCall.runAll clientIp session after.received
              ∧ ClientSession.FixedTicks after.received
              ∧ after.received.countP isTick = after.timer.tickCount) := by
  intro start before after tickTime
  obtain ⟨-, -, hsum, hsession⟩ :=
    run_timer clientIp dataRate startTime session (earlier ++ [r])
  have hafter : after = before.round clientIp r := run_concat earlier r
  have htime : before.timer.getTickTime = tickTime :=
    run_getTickTime clientIp dataRate startTime session earlier
  have htime' : after.timer.getTickTime = tickTime :=
    run_getTickTime clientIp dataRate startTime session (earlier ++ [r])
  obtain ⟨hsleep, -⟩ :=
    before.timer.nextTick_spec r.now before.timer.tickCount
  have hwake : tickTime after.timer.tickCount ≤ after.wakeTime := by
    rw [← htime, hafter, round_tickCount, ← hsleep]
    exact Nat.le_add_right _ _
  refine ⟨?_, hsum, hwake, ?_, ?_⟩
  · rw [← htime, hafter]
    exact before.timer.nextTick_eq_max r.now before.timer.tickCount
  · intro k hk
    rw [← htime] at hk
    rw [hafter, round_tickCount]
    exact before.timer.lt_nextTick_of_due _ hk
  · intro hclock hplaying
    have hdue : after.timer.getTickTime after.timer.tickCount < 2 ^ 63 := by
      rw [htime']
      exact hwake.trans_lt hclock
    have hrange : after.timer.tickCount < 2 ^ 64 :=
      tickCount_lt_of_getTickTime hdue
    obtain ⟨hcount, hfixed⟩ := run_received clientIp dataRate startTime session
      (earlier ++ [r]) hrange hplaying
    exact ⟨hsession, hfixed, hcount⟩

end

/-- A `Play` and the first tick; the worker is held up until tick 6; the
next tick, and a message on the way. -/
def stalledRounds : List (WorkerRound ℚ) :=
  [{ now := 0, overshoot := 7, calls := [.message .play] },
    { now := 100000000, overshoot := 0, calls := [] },
    { now := 116666700, overshoot := 1000, calls := [.message .reset] }]

theorem ticks_without_drift_stalled :
    let after := run "" (start .hz60 0 (ClientSession.new 1)) stalledRounds
    after.returned = [1, 6, 1] ∧ after.wakeTime = 133334333
      ∧ after.received.countP isTick = 8 := by
  intro after
  have hticks : after.returned = [1, 6, 1] ∧ after.wakeTime = 133334333 := by
    simp [after, stalledRounds, run, round, start,
      TimerCompensator.waitForNextTick, TimerCompensator.nextTick,
      TimerCompensator.getTickTime, TickGrid.ofRate, DataRate.toUInt32]
  have hplaying : KeptPlaying "" (start .hz60 0 (ClientSession.new 1))
      stalledRounds := by
    refine ((keptPlaying_nil.concat (r := stalledRounds[0]) rfl ?_).concat
      (r := stalledRounds[1]) ?_ ?_).concat (r := stalledRounds[2]) ?_ ?_
    · simp [stalledRounds, isTick]
    · exact round_state (start .hz60 0 (ClientSession.new 1)) _
    · simp [stalledRounds]
    · exact (round_state (run "" (start .hz60 0 (ClientSession.new 1))
        [stalledRounds[0]]) _).trans (round_state _ _)
    · simp [stalledRounds, isTick]
  obtain ⟨-, hsum, -, -, hreceived⟩ := ticks_without_drift "" .hz60 0
    (ClientSession.new 1) (stalledRounds.take 2) stalledRounds[2]
  obtain ⟨-, -, hcount⟩ := hreceived
    (show after.wakeTime < 2 ^ 63 by rw [hticks.2]; decide) hplaying
  have hsum : after.returned.sum = _ := hsum
  rw [hticks.1] at hsum
  exact ⟨hticks.1, hticks.2, hcount.trans hsum.symm⟩

end TickRun

end NetworkControl
