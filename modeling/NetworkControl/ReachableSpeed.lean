import Mathlib.Algebra.Order.Field.Rat
import Mathlib.Tactic.Linarith
import NetworkControl.DrivenDecay
import NetworkControl.Steering
import NetworkControl.StreamingService

/-!
# Speeds a session can reach

Over exact numbers a tick of `StepPhysics` is a driven decay: a throttle of
1 adds 1/3 and the drag keeps 59/60. Its limit, 59/3, lies below
`MaxSpeedUnitsPerSecond`, so the clamp to that constant changes nothing.
-/

namespace NetworkControl

open FloatArith

namespace ClientSession

section

variable {F : Type} [FloatArith F]

/-- Ticks with the throttle set before each. -/
def drive (s : ClientSession F) (throttles : List F) : ClientSession F :=
  throttles.foldl
    (fun s throttle => { s with throttle }.stepPhysics fixedDeltaSeconds) s

end

/-! ## Exact numbers -/

theorem clamp_of_mem {x low high : ℚ} (hlow : low ≤ x) (hhigh : x ≤ high) :
    clamp x low high = x := by
  have hlt : lt x low = false := decide_eq_false (not_lt.mpr hlow)
  have hgt : lt high x = false := decide_eq_false (not_lt.mpr hhigh)
  rw [clamp, hlt, hgt]
  rfl

theorem clamp_mem (x : ℚ) {low high : ℚ} (h : low ≤ high) :
    low ≤ clamp x low high ∧ clamp x low high ≤ high := by
  by_cases hlow : x < low
  · have hlt : lt x low = true := decide_eq_true hlow
    rw [clamp, hlt]
    exact ⟨le_rfl, h⟩
  · have hlt : lt x low = false := decide_eq_false hlow
    by_cases hhigh : high < x
    · have hgt : lt high x = true := decide_eq_true hhigh
      rw [clamp, hlt, hgt]
      exact ⟨h, le_rfl⟩
    · rw [clamp_of_mem (not_lt.mp hlow) (not_lt.mp hhigh)]
      exact ⟨not_lt.mp hlow, not_lt.mp hhigh⟩

theorem limit_eq : DrivenDecay.limit (59 / 60) (1 / 3) = (59 / 3 : ℚ) := by
  norm_num [DrivenDecay.limit]

theorem unclampedSpeed_eq (s : ClientSession ℚ) :
    s.unclampedSpeed fixedDeltaSeconds
      = DrivenDecay.step (59 / 60) (1 / 3) s.speed s.throttle := by
  have hdrag : clamp (sub (ofRat 1) (mul dragPerSecond fixedDeltaSeconds))
      (ofRat 0) (ofRat 1) = (59 / 60 : ℚ) := by
    have hsub : sub (ofRat 1) (mul dragPerSecond fixedDeltaSeconds)
        = (59 / 60 : ℚ) := by
      show (1 : ℚ) - 1 * (1 / 60) = 59 / 60
      norm_num
    rw [hsub]
    show clamp (59 / 60 : ℚ) 0 1 = 59 / 60
    exact clamp_of_mem (by norm_num) (by norm_num)
  unfold unclampedSpeed DrivenDecay.step
  rw [hdrag]
  show (s.speed + s.throttle * 20 * (1 / 60)) * (59 / 60) = _
  ring

/-- What the physics keeps within. -/
def Drivable (s : ClientSession ℚ) : Prop :=
  |s.motion.1| ≤ 1 ∧ |s.motion.2.2| ≤ 59 / 3

theorem abs_unclampedSpeed_le {s : ClientSession ℚ} (h : s.Drivable) :
    |s.unclampedSpeed fixedDeltaSeconds| ≤ 59 / 3 := by
  rw [unclampedSpeed_eq, ← limit_eq]
  refine DrivenDecay.abs_step_le (by norm_num) (by norm_num) (by norm_num) ?_
    h.1
  rw [limit_eq]
  exact h.2

/-- The clamp to `MaxSpeedUnitsPerSecond` changes nothing. -/
theorem stepPhysics_speed_eq {s : ClientSession ℚ} (h : s.Drivable) :
    (s.stepPhysics fixedDeltaSeconds).speed
      = s.unclampedSpeed fixedDeltaSeconds := by
  obtain ⟨hlow, hhigh⟩ := abs_le.mp (abs_unclampedSpeed_le h)
  rw [stepPhysics_speed]
  refine clamp_of_mem ?_ ?_
  · show -(50 : ℚ) ≤ _
    linarith
  · show _ ≤ (50 : ℚ)
    linarith

theorem Drivable.stepPhysics {s : ClientSession ℚ} (h : s.Drivable) :
    (s.stepPhysics fixedDeltaSeconds).Drivable := by
  refine ⟨h.1, ?_⟩
  show |(s.stepPhysics fixedDeltaSeconds).speed| ≤ 59 / 3
  rw [stepPhysics_speed_eq h]
  exact abs_unclampedSpeed_le h

/-- Whatever value an input carries, it is clamped. -/
theorem Drivable.applyControlInput {s : ClientSession ℚ} (h : s.Drivable)
    (i : SessionInput ℚ) :
    (s.applyControlInput i.sequenceId i.throttle i.yaw).Drivable := by
  unfold Drivable
  rw [applyControlInput_motion]
  split
  · exact h
  · have hle : (-1 : ℚ) ≤ 1 := by norm_num
    exact ⟨abs_le.mpr (clamp_mem i.throttle hle), h.2⟩

theorem Drivable.runOn {s : ClientSession ℚ} (h : s.Drivable)
    (clientIp : String) (m : ClientMessage) :
    (m.runOn clientIp s).Drivable := by
  unfold Drivable
  rw [runOn_motion]
  split
  · show |(0 : ℚ)| ≤ 1 ∧ |(0 : ℚ)| ≤ 59 / 3
    norm_num
  · exact h

theorem drivable_new (sessionId : UInt64) :
    (ClientSession.new sessionId : ClientSession ℚ).Drivable := by
  show |(0 : ℚ)| ≤ 1 ∧ |(0 : ℚ)| ≤ 59 / 3
  norm_num

/-- Every tick of the streaming worker takes the same time. -/
def FixedTicks {F : Type} [FloatArith F] (calls : List (SessionCall F)) :
    Prop :=
  ∀ dt, .udpThread (.stepPhysics dt) ∈ calls → dt = fixedDeltaSeconds

theorem drivable_runAll (clientIp : String) (calls : List (SessionCall ℚ)) :
    ∀ s : ClientSession ℚ, s.Drivable → FixedTicks calls →
      (SessionCall.runAll clientIp s calls).Drivable := by
  induction calls with
  | nil => exact fun s hs _ => hs
  | cons call calls ih =>
      intro s hs hticks
      refine ih _ ?_ fun dt hdt => hticks dt (List.mem_cons_of_mem _ hdt)
      cases call with
      | message m => exact hs.runOn clientIp m
      | udpThread call =>
          cases call with
          | stepPhysics dt =>
              obtain rfl : dt = fixedDeltaSeconds :=
                hticks dt List.mem_cons_self
              exact hs.stepPhysics
          | getNextSequenceId => exact hs
          | applyControlInput sequenceId throttle yaw =>
              exact hs.applyControlInput { sequenceId, throttle, yaw }

theorem drive_speed (throttles : List ℚ) : ∀ s : ClientSession ℚ,
    |s.speed| ≤ 59 / 3 → (∀ throttle ∈ throttles, |throttle| ≤ 1) →
      (s.drive throttles).speed
        = DrivenDecay.run (59 / 60) (1 / 3) s.speed throttles := by
  induction throttles with
  | nil => exact fun s _ _ => rfl
  | cons throttle throttles ih =>
      intro s hspeed hthrottles
      have hs : { s with throttle }.Drivable :=
        ⟨hthrottles throttle List.mem_cons_self, hspeed⟩
      have hrest : ∀ u ∈ throttles, |u| ≤ 1 :=
        fun u hu => hthrottles u (List.mem_cons_of_mem _ hu)
      have hnext := ih _ hs.stepPhysics.2 hrest
      rw [stepPhysics_speed_eq hs, unclampedSpeed_eq] at hnext
      exact hnext

/-- No session gets faster than 59/3, whatever the inputs and stops; the
clamp to `MaxSpeedUnitsPerSecond` never changes its speed, and two sessions
under the same throttle come together by 59/60 in every tick. -/
theorem reachable_speed :
    (∀ clientIp sessionId (calls : List (SessionCall ℚ)), FixedTicks calls →
      let s := SessionCall.runAll clientIp (ClientSession.new sessionId) calls
      |s.speed| ≤ 59 / 3
        ∧ (s.stepPhysics fixedDeltaSeconds).speed
            = s.unclampedSpeed fixedDeltaSeconds)
      ∧ ∀ (s t : ClientSession ℚ) (throttles : List ℚ),
          |s.speed| ≤ 59 / 3 → |t.speed| ≤ 59 / 3 →
          (∀ throttle ∈ throttles, |throttle| ≤ 1) →
          (s.drive throttles).speed - (t.drive throttles).speed
            = (59 / 60) ^ throttles.length * (s.speed - t.speed) := by
  refine ⟨fun clientIp sessionId calls hticks => ?_, ?_⟩
  · have h := drivable_runAll clientIp calls _ (drivable_new sessionId) hticks
    exact ⟨h.2, stepPhysics_speed_eq h⟩
  · intro s t throttles hs ht hthrottles
    rw [drive_speed throttles s hs hthrottles,
      drive_speed throttles t ht hthrottles, DrivenDecay.run_sub]

/-- Full throttle forward from 1 and from 0: after two ticks the speeds are
still (59/60)² apart. -/
theorem reachable_speed_two_ticks :
    (drive { (ClientSession.new 1 : ClientSession ℚ) with speed := 1 }
        [1, 1]).speed
      - (drive (ClientSession.new 2 : ClientSession ℚ) [1, 1]).speed
      = (59 / 60) ^ 2 := by
  have h := reachable_speed.2
    { (ClientSession.new 1 : ClientSession ℚ) with speed := 1 }
    (ClientSession.new 2) [1, 1] (by norm_num)
    (by show |(0 : ℚ)| ≤ 59 / 3; norm_num) (by simp)
  refine h.trans ?_
  show (59 / 60 : ℚ) ^ 2 * (1 - 0) = (59 / 60) ^ 2
  norm_num

end ClientSession

end NetworkControl
