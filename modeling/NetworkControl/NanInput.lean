import NetworkControl.ExtendedRat
import NetworkControl.InputOwnership
import NetworkControl.Steering
import NetworkControl.StreamingService

/-!
# Inputs that are not numbers

The bits of `Throttle` and `Yaw` come from the network as they are, and the
only guard behind `TryReadFloat` is `Clamp`, two comparisons. An infinity is
clamped to 1 or -1, but NaN is neither below -1 nor above 1 and passes; from
the throttle it gets into the speed with the next tick.

The numbers here are exact (`ExtendedRat`); what `cos`, `sin` and the way
back to bits do with them is left open (`FloatFunctions`), the controls and
the speed do not depend on it.
-/

namespace NetworkControl

open FloatArith

/-! ## float without rounding -/

class FloatFunctions where
  cos : ExtendedRat → ExtendedRat
  sin : ExtendedRat → ExtendedRat
  toBits : ExtendedRat → FloatBits

instance [functions : FloatFunctions] : FloatArith ExtendedRat where
  ofRat := ExtendedRat.finite
  add := ExtendedRat.add
  sub := ExtendedRat.sub
  mul := ExtendedRat.mul
  neg := ExtendedRat.neg
  lt := ExtendedRat.lt
  cos := functions.cos
  sin := functions.sin
  ofBits := ExtendedRat.ofBits
  toBits := functions.toBits

namespace ClientSession

section

variable [FloatFunctions]

open ExtendedRat (nan Within within_finite not_within_nan nan_lt lt_nan
  lt_finite nan_mul add_nan IsNan)

theorem clamp_nan (low high : ExtendedRat) : clamp nan low high = nan := by
  show (if ExtendedRat.lt nan low then low
    else if ExtendedRat.lt high nan then high else nan) = nan
  rw [nan_lt, lt_nan]
  rfl

/-- Everything but NaN is brought into the interval. -/
theorem within_clamp {x : ExtendedRat} (hx : x ≠ nan) {low high : ℚ}
    (h : low ≤ high) :
    Within low high (clamp x (.finite low) (.finite high)) := by
  show Within low high (if ExtendedRat.lt x (.finite low) then .finite low
    else if ExtendedRat.lt (.finite high) x then .finite high else x)
  cases x with
  | nan => exact absurd rfl hx
  | infinity negative =>
      cases negative with
      | true => exact within_finite le_rfl h
      | false => exact within_finite h le_rfl
  | finite q =>
      rw [lt_finite, lt_finite]
      by_cases hlow : q < low
      · rw [if_pos (decide_eq_true hlow)]
        exact within_finite le_rfl h
      · rw [if_neg (by simpa using hlow)]
        by_cases hhigh : high < q
        · rw [if_pos (decide_eq_true hhigh)]
          exact within_finite h le_rfl
        · rw [if_neg (by simpa using hhigh)]
          exact within_finite (not_lt.mp hlow) (not_lt.mp hhigh)

theorem within_clamp_iff {x : ExtendedRat} {low high : ℚ} (h : low ≤ high) :
    Within low high (clamp x (.finite low) (.finite high)) ↔ x ≠ nan := by
  refine ⟨?_, fun hx => within_clamp hx h⟩
  rintro hwithin rfl
  rw [clamp_nan] at hwithin
  exact not_within_nan low high hwithin

/-! ## What a session is meant to keep -/

/-- Throttle, yaw and speed are numbers, and in their ranges. -/
def Sanitised (s : ClientSession ExtendedRat) : Prop :=
  Within (-1) 1 s.motion.1 ∧ Within (-1) 1 s.motion.2.1
    ∧ Within (-50) 50 s.motion.2.2

theorem sanitised_new (sessionId : UInt64) :
    (ClientSession.new sessionId : ClientSession ExtendedRat).Sanitised := by
  refine ⟨?_, ?_, ?_⟩ <;>
    exact within_finite (by norm_num) (by norm_num)

theorem Sanitised.runOn {s : ClientSession ExtendedRat} (h : s.Sanitised)
    (clientIp : String) (m : ClientMessage) :
    (m.runOn clientIp s).Sanitised := by
  unfold Sanitised
  rw [runOn_motion]
  split
  · exact sanitised_new 0
  · exact h

/-- The arithmetic of a tick stays among the numbers. -/
theorem unclampedSpeed_finite {s : ClientSession ExtendedRat}
    {throttle speed : ℚ} (hthrottle : s.throttle = .finite throttle)
    (hspeed : s.speed = .finite speed) :
    s.unclampedSpeed fixedDeltaSeconds ≠ nan := by
  have hkept : sub (ofRat 1) (mul dragPerSecond fixedDeltaSeconds)
      ≠ nan := fun h => nomatch h
  obtain ⟨drag, hdrag, -⟩ := within_clamp hkept (zero_le_one' ℚ)
  have hproduct : s.unclampedSpeed fixedDeltaSeconds
      = ExtendedRat.mul (ExtendedRat.add (.finite speed)
          (ExtendedRat.mul (ExtendedRat.mul (.finite throttle) (.finite 20))
            (.finite (1 / 60)))) (.finite drag) := by
    rw [← hdrag, ← hspeed, ← hthrottle]
    rfl
  rw [hproduct]
  exact fun h => nomatch h

theorem Sanitised.stepPhysics {s : ClientSession ExtendedRat}
    (h : s.Sanitised) : (s.stepPhysics fixedDeltaSeconds).Sanitised := by
  obtain ⟨⟨throttle, hthrottle, hrange⟩, hyaw, speed, hspeed, -⟩ := h
  refine ⟨⟨throttle, hthrottle, hrange⟩, hyaw, ?_⟩
  exact within_clamp (unclampedSpeed_finite hthrottle hspeed)
    (by norm_num : (-50 : ℚ) ≤ 50)

/-- A throttle that is NaN makes the speed NaN with the next tick. -/
theorem stepPhysics_nan {s : ClientSession ExtendedRat}
    (h : s.throttle = nan) (dt : ExtendedRat) :
    (s.stepPhysics dt).speed = nan := by
  have hnan : s.unclampedSpeed dt = nan := by
    show ExtendedRat.mul (ExtendedRat.add s.speed (ExtendedRat.mul
      (ExtendedRat.mul s.throttle _) dt)) _ = nan
    rw [h, nan_mul, nan_mul, add_nan, nan_mul]
  rw [stepPhysics_speed, hnan, clamp_nan]

end

end ClientSession

/-! ## Runs -/

/-- What reaches a session: a control input with whatever bits it carries,
a tick, or a message. -/
inductive SessionEvent where
  | controlInput (payload : EntityControlInputPayload)
  | tick
  | message (message : ClientMessage)

namespace SessionEvent

section

variable [FloatFunctions]

def call : SessionEvent → SessionCall ExtendedRat
  | controlInput payload =>
      .udpThread (.applyControlInput payload.sequenceId
        (ofBits payload.throttle) (ofBits payload.yaw))
  | tick => .udpThread (.stepPhysics fixedDeltaSeconds)
  | message m => .message m

/-- A session from its initial state on. -/
def reached (clientIp : String) (sessionId : UInt64)
    (events : List SessionEvent) : ClientSession ExtendedRat :=
  SessionCall.runAll clientIp (ClientSession.new sessionId)
    (events.map call)

theorem reached_concat (clientIp : String) (sessionId : UInt64)
    (events : List SessionEvent) (event : SessionEvent) :
    reached clientIp sessionId (events ++ [event])
      = event.call.run clientIp (reached clientIp sessionId events) := by
  rw [reached, List.map_append]
  exact List.foldl_concat ..

/-- No input that a session applies has the bits of NaN. -/
def NoNanApplied (clientIp : String) (sessionId : UInt64)
    (events : List SessionEvent) : Prop :=
  ∀ earlier payload, earlier ++ [controlInput payload] <+: events →
    (reached clientIp sessionId earlier).lastAppliedControlInputSequenceId
        < payload.sequenceId →
      ¬ ExtendedRat.IsNan payload.throttle ∧ ¬ ExtendedRat.IsNan payload.yaw

variable {clientIp : String} {sessionId : UInt64}
  {events : List SessionEvent} {s : ClientSession ExtendedRat}

/-- A datagram that reaches a session is an event of it. -/
theorem applyInput_session (server : TcpControlServer ExtendedRat) (n : Nat)
    (payload : EntityControlInputPayload) :
    ((server.applyInput n payload).control n).session
      = (controlInput payload).call.run clientIp (server.control n).session :=
  congrArg Control.session (TcpControlServer.applyInput_control_self payload)

/-- An input that is applied keeps the session sane if and only if it is
not NaN. -/
theorem sanitised_controlInput_iff (hs : s.Sanitised)
    (payload : EntityControlInputPayload) :
    ((controlInput payload).call.run clientIp s).Sanitised
      ↔ (s.lastAppliedControlInputSequenceId < payload.sequenceId →
          ¬ ExtendedRat.IsNan payload.throttle
            ∧ ¬ ExtendedRat.IsNan payload.yaw) := by
  have hmotion := s.applyControlInput_motion
    { sequenceId := payload.sequenceId, throttle := ofBits payload.throttle
      yaw := ofBits payload.yaw }
  show ClientSession.Sanitised (s.applyControlInput _ _ _) ↔ _
  unfold ClientSession.Sanitised
  rw [hmotion]
  split
  · rename_i hold
    refine iff_of_true hs fun hnewer => ?_
    exact absurd hold (UInt32.not_le.mpr hnewer)
  · rename_i hnewer
    rw [forall_prop_of_true (UInt32.not_le.mp hnewer),
      ← ExtendedRat.ofBits_eq_nan_iff, ← ExtendedRat.ofBits_eq_nan_iff]
    have hrange : (-1 : ℚ) ≤ 1 := by norm_num
    have hthrottle := ClientSession.within_clamp_iff
      (x := ofBits payload.throttle) hrange
    have hyaw := ClientSession.within_clamp_iff
      (x := ofBits payload.yaw) hrange
    exact ⟨fun h => ⟨hthrottle.mp h.1, hyaw.mp h.2.1⟩,
      fun h => ⟨hthrottle.mpr h.1, hyaw.mpr h.2, hs.2.2⟩⟩

/-- The controls and the speed stay numbers in their ranges, all the run
long, if and only if no input that is applied carries NaN. -/
theorem sanitised_iff_noNanApplied (clientIp : String) (sessionId : UInt64)
    (events : List SessionEvent) :
    (∀ earlier, earlier <+: events →
        (reached clientIp sessionId earlier).Sanitised)
      ↔ NoNanApplied clientIp sessionId events := by
  constructor
  · intro h earlier payload hbegins
    have hbefore := h earlier ((List.prefix_append _ _).trans hbegins)
    have hafter := h _ hbegins
    rw [reached_concat] at hafter
    exact (sanitised_controlInput_iff hbefore payload).mp hafter
  · intro h earlier
    induction earlier using List.reverseRecOn with
    | nil => exact fun _ => ClientSession.sanitised_new sessionId
    | append_singleton earlier event ih =>
        intro hbegins
        have hbefore := ih ((List.prefix_append _ _).trans hbegins)
        rw [reached_concat]
        cases event with
        | controlInput payload =>
            exact (sanitised_controlInput_iff hbefore payload).mpr
              (h earlier payload hbegins)
        | tick => exact hbefore.stepPhysics
        | message m => exact hbefore.runOn clientIp m

end

/-- One input with a NaN for its throttle, a quiet one. -/
theorem sanitised_fails :
    ¬ ∀ (_ : FloatFunctions) (clientIp : String) (sessionId : UInt64)
        (events : List SessionEvent),
      (reached clientIp sessionId events).Sanitised := by
  intro h
  let functions : FloatFunctions := ⟨id, id, fun _ => 0⟩
  have hnan := h functions "" 1
    [controlInput
      { entityId := 1, sequenceId := 1, throttle := 0x7FC00000, yaw := 0 }]
  exact ExtendedRat.not_within_nan _ _ hnan.1

end SessionEvent

end NetworkControl
