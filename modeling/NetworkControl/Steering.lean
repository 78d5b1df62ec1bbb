import Mathlib.Data.List.DropRight
import NetworkControl.ControlInput
import NetworkControl.LatestWins

/-!
# Steering one session

What a session's throttle and yaw come to, whatever calls reach it and in
whatever order its control inputs arrive.

`throttle_`, `yaw_` and `lastAppliedControlInputSequenceId_` together are a
register in which the latest write wins (`controls`): an input is a write,
`Stop` is a clear, and no other call touches it (`controls_runAll`). The
results are those of `LatestWins` at that register.
-/

namespace NetworkControl

open FloatArith LatestWins

/-- A call on a session, by its control worker or by a UDP thread. -/
inductive SessionCall (F : Type) where
  | message (message : ClientMessage)
  | udpThread (call : UdpThreadCall F)

/-- The arguments of `ApplyControlInput`. -/
structure SessionInput (F : Type) where
  sequenceId : UInt32
  throttle : F
  yaw : F
deriving DecidableEq

/-- Throttle and yaw as the session keeps them. -/
def SessionInput.clamped {F : Type} [FloatArith F] (i : SessionInput F) :
    F × F :=
  (ClientSession.clamp i.throttle (ofRat (-1)) (ofRat 1),
    ClientSession.clamp i.yaw (ofRat (-1)) (ofRat 1))

namespace SessionCall

section

variable {F : Type}

def isStop : SessionCall F → Bool
  | .message m => m.isStop
  | .udpThread _ => false

def input : SessionCall F → Option (SessionInput F)
  | .udpThread (.applyControlInput sequenceId throttle yaw) =>
      some { sequenceId, throttle, yaw }
  | _ => none

/-- The inputs among some calls. -/
def inputs (calls : List (SessionCall F)) : List (SessionInput F) :=
  calls.filterMap input

/-- The calls up to the last `Stop`, none if there was none. -/
def throughLastStop (calls : List (SessionCall F)) : List (SessionCall F) :=
  calls.rdropWhile fun call => !call.isStop

/-- The calls after the last `Stop`. -/
def sinceLastStop (calls : List (SessionCall F)) : List (SessionCall F) :=
  calls.rtakeWhile fun call => !call.isStop

theorem mem_inputs {calls : List (SessionCall F)} {i : SessionInput F} :
    i ∈ inputs calls ↔ .udpThread (.applyControlInput i.sequenceId i.throttle
      i.yaw) ∈ calls := by
  rw [inputs, List.mem_filterMap]
  constructor
  · rintro ⟨call, hmem, hinput⟩
    match call, hinput with
    | .udpThread (.applyControlInput _ _ _), rfl => exact hmem
  · exact fun hmem => ⟨_, hmem, rfl⟩

theorem through_append_since (calls : List (SessionCall F)) :
    throughLastStop calls ++ sinceLastStop calls = calls :=
  List.rdropWhile_append_rtakeWhile ..

theorem inputs_through_since (calls : List (SessionCall F)) :
    inputs calls
      = inputs (throughLastStop calls) ++ inputs (sinceLastStop calls) := by
  rw [inputs, inputs, inputs, ← List.filterMap_append, through_append_since]

end

section

variable {F : Type} [FloatArith F] (clientIp : String)

def run (session : ClientSession F) : SessionCall F → ClientSession F
  | .message m => m.runOn clientIp session
  | .udpThread call => TcpControlServer.runUdpThreadCall session call

def runAll (session : ClientSession F) (calls : List (SessionCall F)) :
    ClientSession F :=
  calls.foldl (run clientIp) session

/-! ## The controls as a register -/

/-- What a call writes to the register. -/
def write : SessionCall F → Option (Write Nat (F × F))
  | .message (.stop _) => some .clear
  | .udpThread (.applyControlInput sequenceId throttle yaw) =>
      some (.put sequenceId.toNat
        (SessionInput.clamped { sequenceId, throttle, yaw }))
  | _ => none

def writes (calls : List (SessionCall F)) : List (Write Nat (F × F)) :=
  calls.filterMap write

end

end SessionCall

namespace ClientSession

variable {F : Type} [FloatArith F]

omit [FloatArith F] in
/-- The register of a session's controls. -/
def controls (s : ClientSession F) : Register Nat (F × F) :=
  ⟨s.lastAppliedControlInputSequenceId.toNat, (s.throttle, s.yaw)⟩

/-- Throttle and yaw after a `Stop`. -/
def neutral : F × F := (ofRat 0, ofRat 0)

theorem controls_applyControlInput (s : ClientSession F)
    (i : SessionInput F) :
    (s.applyControlInput i.sequenceId i.throttle i.yaw).controls
      = s.controls.apply neutral (.put i.sequenceId.toNat i.clamped) := by
  unfold applyControlInput
  split
  · rename_i hold
    exact (Register.apply_put_of_le (UInt32.le_iff_toNat_le.mp hold) _).symm
  · rename_i hnews
    have hlt : s.controls.mark < i.sequenceId.toNat :=
      not_le.mp (mt UInt32.le_iff_toNat_le.mpr hnews)
    exact (Register.apply_put_of_lt hlt _).symm

theorem controls_run (clientIp : String) (s : ClientSession F)
    (call : SessionCall F) :
    (call.run clientIp s).controls
      = s.controls.run neutral call.write.toList := by
  cases call with
  | message m =>
      cases m with
      | play =>
          simp only [SessionCall.run, ClientMessage.runOn, play]
          split <;> rfl
      | pause =>
          simp only [SessionCall.run, ClientMessage.runOn, pause]
          split <;> rfl
      | setRate dataRateHz =>
          simp only [SessionCall.run, ClientMessage.runOn, setRate]
          split
          · rfl
          · split <;> rfl
      | _ => rfl
  | udpThread call =>
      cases call with
      | applyControlInput sequenceId throttle yaw =>
          exact controls_applyControlInput s { sequenceId, throttle, yaw }
      | _ => rfl

/-- The controls of a session are the register its calls wrote. -/
theorem controls_runAll (clientIp : String) (calls : List (SessionCall F)) :
    ∀ s : ClientSession F, (SessionCall.runAll clientIp s calls).controls
      = s.controls.run neutral (SessionCall.writes calls) := by
  induction calls with
  | nil => exact fun s => rfl
  | cons call calls ih =>
      intro s
      rw [SessionCall.runAll, List.foldl_cons, ← SessionCall.runAll, ih,
        controls_run, ← Register.run_append, SessionCall.writes,
        SessionCall.writes]
      cases hwrite : call.write with
      | none => rw [List.filterMap_cons_none hwrite]; rfl
      | some w => rw [List.filterMap_cons_some hwrite]; rfl

/-! ## What the physics works on -/

omit [FloatArith F] in
def motion (s : ClientSession F) : F × F × F := (s.throttle, s.yaw, s.speed)

/-- The speed `StepPhysics` computes before it clamps it. -/
def unclampedSpeed (s : ClientSession F) (dt : F) : F :=
  mul (add s.speed (mul (mul s.throttle accelerationUnitsPerSecondSquared) dt))
    (clamp (sub (ofRat 1) (mul dragPerSecond dt)) (ofRat 0) (ofRat 1))

theorem stepPhysics_speed (s : ClientSession F) (dt : F) :
    (s.stepPhysics dt).speed
      = clamp (s.unclampedSpeed dt) (neg maxSpeedUnitsPerSecond)
          maxSpeedUnitsPerSecond := rfl

/-- Of the messages only `Stop` touches what the physics works on. -/
theorem runOn_motion (clientIp : String) (s : ClientSession F)
    (m : ClientMessage) :
    (m.runOn clientIp s).motion
      = if m.isStop then (ofRat 0, ofRat 0, ofRat 0) else s.motion := by
  cases m with
  | play =>
      rw [ClientMessage.runOn, play]
      split <;> rfl
  | pause =>
      rw [ClientMessage.runOn, pause]
      split <;> rfl
  | setRate dataRateHz =>
      rw [ClientMessage.runOn, setRate]
      split
      · rfl
      · split <;> rfl
  | _ => rfl

theorem applyControlInput_motion (s : ClientSession F)
    (i : SessionInput F) :
    (s.applyControlInput i.sequenceId i.throttle i.yaw).motion
      = if i.sequenceId ≤ s.lastAppliedControlInputSequenceId then s.motion
        else (i.clamped.1, i.clamped.2, s.speed) := by
  unfold applyControlInput
  split <;> rfl

end ClientSession

/-! ## Which inputs the register saw -/

namespace SessionCall

section

variable {F : Type} [FloatArith F] {calls calls' : List (SessionCall F)}

theorem put_mem_writes {i : Nat} {v : F × F} :
    .put i v ∈ writes calls
      ↔ ∃ j ∈ inputs calls, j.sequenceId.toNat = i ∧ j.clamped = v := by
  rw [writes, List.mem_filterMap]
  constructor
  · rintro ⟨call, hmem, hwrite⟩
    match call, hwrite with
    | .udpThread (.applyControlInput sequenceId throttle yaw), rfl =>
        exact ⟨⟨sequenceId, throttle, yaw⟩, mem_inputs.mpr hmem, rfl, rfl⟩
  · rintro ⟨j, hmem, rfl, rfl⟩
    exact ⟨_, mem_inputs.mp hmem, rfl⟩

theorem write_eq_clear {call : SessionCall F} :
    call.write = some .clear ↔ call.isStop = true := by
  cases call with
  | message m => cases m <;> simp [write, isStop, ClientMessage.isStop]
  | udpThread call => cases call <;> simp [write, isStop]

theorem clear_not_mem_writes (h : ∀ call ∈ calls, call.isStop = false) :
    .clear ∉ writes calls := by
  intro hmem
  obtain ⟨call, hcall, hwrite⟩ := List.mem_filterMap.mp hmem
  rw [write_eq_clear, h call hcall] at hwrite
  cases hwrite

omit [FloatArith F] in
theorem sinceLastStop_isStop {call : SessionCall F}
    (h : call ∈ sinceLastStop calls) : call.isStop = false := by
  simpa using List.mem_rtakeWhile_imp h

/-- Up to the last `Stop` nothing is left. -/
theorem controls_throughLastStop (clientIp : String) (sessionId : UInt64)
    (calls : List (SessionCall F)) :
    (runAll clientIp (.new sessionId)
      (throughLastStop calls)).controls.value = ClientSession.neutral := by
  by_cases hnone : throughLastStop calls = []
  · rw [hnone]
    rfl
  · have hlast : ¬ (!((throughLastStop calls).getLast hnone).isStop) = true :=
      List.rdropWhile_last_not _ _ hnone
    have hstop : ((throughLastStop calls).getLast hnone).isStop = true := by
      simpa using hlast
    rw [← List.dropLast_append_getLast hnone, runAll, List.foldl_append,
      List.foldl_cons, List.foldl_nil, ClientSession.controls_run,
      write_eq_clear.mpr hstop]
    rfl

theorem stamped_writes {i : Nat} :
    Stamped (writes calls) i
      ↔ ∃ j ∈ inputs calls, j.sequenceId.toNat = i := by
  constructor
  · rintro ⟨v, hmem⟩
    obtain ⟨j, hj, hid, -⟩ := put_mem_writes.mp hmem
    exact ⟨j, hj, hid⟩
  · rintro ⟨j, hj, hid⟩
    exact ⟨_, put_mem_writes.mpr ⟨j, hj, hid, rfl⟩⟩

/-- The register sees the inputs, and not in which order they come. -/
theorem mem_writes_congr (hstop : ∀ call ∈ calls, call.isStop = false)
    (hstop' : ∀ call ∈ calls', call.isStop = false)
    (hsame : ∀ i, i ∈ inputs calls ↔ i ∈ inputs calls')
    (w : Write Nat (F × F)) : w ∈ writes calls ↔ w ∈ writes calls' := by
  cases w with
  | put i v => simp only [put_mem_writes, hsame]
  | clear =>
      exact iff_of_false (clear_not_mem_writes hstop)
        (clear_not_mem_writes hstop')

/-! ## The latest input wins -/

/-- Throttle and yaw are those of the input with the greatest sequence id
delivered, unless it was delivered before the last `Stop`. -/
structure SteeredByLatest (calls : List (SessionCall F))
    (session : ClientSession F) : Prop where
  fresh : ∀ i ∈ inputs calls,
    (∀ j ∈ inputs calls, j.sequenceId ≤ i.sequenceId) →
    (∀ j ∈ inputs (throughLastStop calls), j.sequenceId ≠ i.sequenceId) →
    session.throttle = ClientSession.clamp i.throttle (ofRat (-1)) (ofRat 1)
      ∧ session.yaw = ClientSession.clamp i.yaw (ofRat (-1)) (ofRat 1)
  stale : ∀ i ∈ inputs calls,
    (∀ j ∈ inputs calls, j.sequenceId ≤ i.sequenceId) →
    (∃ j ∈ inputs (throughLastStop calls), j.sequenceId = i.sequenceId) →
    session.throttle = ofRat 0 ∧ session.yaw = ofRat 0
  none : inputs calls = [] →
    session.throttle = ofRat 0 ∧ session.yaw = ofRat 0

/-- Every input of one sequence id carries the same values. -/
def OneInputPerId (calls : List (SessionCall F)) : Prop :=
  ∀ i ∈ inputs calls, ∀ j ∈ inputs calls, i.sequenceId = j.sequenceId → i = j

theorem functional_since (h : OneInputPerId calls) :
    Functional (writes (sinceLastStop calls)) := by
  intro i v v' hv hv'
  have hsince : ∀ j ∈ inputs (sinceLastStop calls), j ∈ inputs calls := by
    intro j hj
    rw [inputs_through_since]
    exact List.mem_append_right _ hj
  obtain ⟨j, hj, rfl, rfl⟩ := put_mem_writes.mp hv
  obtain ⟨k, hk, hid, rfl⟩ := put_mem_writes.mp hv'
  rw [h k (hsince k hk) j (hsince j hj) (UInt32.toNat_inj.mp hid)]

theorem controls_since (clientIp : String) (sessionId : UInt64)
    (calls : List (SessionCall F)) :
    (runAll clientIp (.new sessionId) calls).controls
      = (runAll clientIp (.new sessionId) (throughLastStop calls)).controls.run
          ClientSession.neutral (writes (sinceLastStop calls)) := by
  rw [← ClientSession.controls_runAll clientIp, runAll, runAll, runAll,
    ← List.foldl_append, through_append_since]

/-- The mark the calls up to the last `Stop` leave is an id of theirs. -/
theorem mark_throughLastStop (clientIp : String) (sessionId : UInt64)
    (calls : List (SessionCall F)) :
    (runAll clientIp (.new sessionId)
        (throughLastStop calls)).controls.mark = 0
      ∨ ∃ j ∈ inputs (throughLastStop calls), j.sequenceId.toNat
        = (runAll clientIp (.new sessionId)
          (throughLastStop calls)).controls.mark := by
  rw [ClientSession.controls_runAll]
  rcases Register.run_mark ClientSession.neutral
    (writes (throughLastStop calls))
    (ClientSession.new (F := F) sessionId).controls with hzero | hstamped
  · exact Or.inl hzero
  · exact Or.inr (stamped_writes.mp hstamped)

/-- Nothing came since the last `Stop` that was not known by then. -/
theorem neutral_of_known (clientIp : String) (sessionId : UInt64)
    (hknown : ∀ j ∈ inputs (sinceLastStop calls), j.sequenceId.toNat
      ≤ (runAll clientIp (.new sessionId)
        (throughLastStop calls)).controls.mark) :
    (runAll clientIp (.new sessionId) calls).throttle = ofRat 0
      ∧ (runAll clientIp (.new sessionId) calls).yaw = ofRat 0 := by
  have hclear : Write.clear ∉ writes (sinceLastStop calls) :=
    clear_not_mem_writes fun _ => sinceLastStop_isStop
  have hkept := Register.run_of_known ClientSession.neutral
    hclear (r := (runAll clientIp (.new sessionId)
      (throughLastStop calls)).controls) fun j hj => by
      obtain ⟨m, hm, rfl⟩ := stamped_writes.mp hj
      exact hknown m hm
  rw [← controls_since] at hkept
  have hvalue := (congrArg Register.value hkept).trans
    (controls_throughLastStop clientIp sessionId calls)
  exact ⟨congrArg Prod.fst hvalue, congrArg Prod.snd hvalue⟩

theorem steeredByLatest (clientIp : String) (sessionId : UInt64)
    (hids : ∀ i ∈ inputs calls, 0 < i.sequenceId)
    (hsame : OneInputPerId calls) :
    SteeredByLatest calls (runAll clientIp (.new sessionId) calls) := by
  have hsplit := inputs_through_since calls
  have hrun := controls_since clientIp sessionId calls
  have hclear : Write.clear ∉ writes (sinceLastStop calls) :=
    clear_not_mem_writes fun _ => sinceLastStop_isStop
  refine ⟨?_, ?_, ?_⟩
  · intro i hi hmax hnew
    have hsince : i ∈ inputs (sinceLastStop calls) := by
      rw [hsplit, List.mem_append] at hi
      exact hi.resolve_left fun hold => hnew i hold rfl
    have hnews : (runAll clientIp (.new sessionId)
        (throughLastStop calls)).controls.mark < i.sequenceId.toNat := by
      rcases mark_throughLastStop clientIp sessionId calls with
        hzero | ⟨j, hj, hmark⟩
      · rw [hzero]
        exact UInt32.lt_iff_toNat_lt.mp (hids i hi)
      · rw [← hmark]
        have hle := hmax j (by rw [hsplit]; exact List.mem_append_left _ hj)
        have hne : j.sequenceId.toNat ≠ i.sequenceId.toNat :=
          fun h => hnew j hj (UInt32.toNat_inj.mp h)
        exact lt_of_le_of_ne (UInt32.le_iff_toNat_le.mp hle) hne
    have hlast := Register.run_of_latest ClientSession.neutral
      hclear (functional_since hsame)
      (put_mem_writes.mpr ⟨i, hsince, rfl, rfl⟩) (fun j hj => by
        obtain ⟨k, hk, rfl⟩ := stamped_writes.mp hj
        refine UInt32.le_iff_toNat_le.mp (hmax k ?_)
        rw [hsplit]
        exact List.mem_append_right _ hk) hnews
    rw [← hrun] at hlast
    have hvalue := congrArg Register.value hlast
    exact ⟨congrArg Prod.fst hvalue, congrArg Prod.snd hvalue⟩
  · rintro i hi hmax ⟨k, hk, hid⟩
    refine neutral_of_known clientIp sessionId fun j hj => ?_
    have hle := hmax j (by rw [hsplit]; exact List.mem_append_right _ hj)
    rw [← hid] at hle
    rw [ClientSession.controls_runAll]
    exact (UInt32.le_iff_toNat_le.mp hle).trans
      (Register.stamp_le_run _ (stamped_writes.mpr ⟨k, hk, rfl⟩))
  · intro hnone
    refine neutral_of_known clientIp sessionId fun j hj => ?_
    have hmem : j ∈ inputs calls := by
      rw [hsplit]
      exact List.mem_append_right _ hj
    rw [hnone] at hmem
    cases hmem

/-! ## The order does not matter -/

theorem controls_through_congr (clientIp : String) (sessionId : UInt64)
    (hsame : ∀ i, i ∈ inputs (throughLastStop calls)
      ↔ i ∈ inputs (throughLastStop calls')) :
    (runAll clientIp (.new sessionId) (throughLastStop calls)).controls
      = (runAll clientIp (.new sessionId)
        (throughLastStop calls')).controls := by
  have hstamped : ∀ i, Stamped (writes (throughLastStop calls)) i
      ↔ Stamped (writes (throughLastStop calls')) i := by
    intro i
    simp only [stamped_writes, hsame]
  refine Register.ext ?_ ?_
  · rw [ClientSession.controls_runAll, ClientSession.controls_runAll]
    exact le_antisymm
      (Register.run_mark_le (fun i => (hstamped i).mp) (le_refl _))
      (Register.run_mark_le (fun i => (hstamped i).mpr) (le_refl _))
  · rw [controls_throughLastStop, controls_throughLastStop]

theorem controls_congr (clientIp : String) (sessionId : UInt64)
    (hone : OneInputPerId calls)
    (hthrough : ∀ i, i ∈ inputs (throughLastStop calls)
      ↔ i ∈ inputs (throughLastStop calls'))
    (hsince : ∀ i, i ∈ inputs (sinceLastStop calls)
      ↔ i ∈ inputs (sinceLastStop calls')) :
    (runAll clientIp (.new sessionId) calls).controls
      = (runAll clientIp (.new sessionId) calls').controls := by
  rw [controls_since _ _ calls, controls_since _ _ calls',
    controls_through_congr clientIp sessionId hthrough]
  have hstop : ∀ call ∈ sinceLastStop calls, call.isStop = false :=
    fun _ => sinceLastStop_isStop
  have hstop' : ∀ call ∈ sinceLastStop calls', call.isStop = false :=
    fun _ => sinceLastStop_isStop
  exact Register.run_congr (clear_not_mem_writes hstop)
    (clear_not_mem_writes hstop') (functional_since hone)
    (mem_writes_congr hstop hstop' hsince) _

/-- The input with the greatest id wins if it came after the last `Stop`;
the order in which the inputs came between two `Stop`s is nothing to the
result. -/
theorem latest_input_wins (clientIp : String) (sessionId : UInt64)
    (hids : ∀ i ∈ inputs calls, 0 < i.sequenceId)
    (hone : OneInputPerId calls) :
    SteeredByLatest calls (runAll clientIp (.new sessionId) calls)
    ∧ ∀ calls' : List (SessionCall F),
      (∀ i, i ∈ inputs (throughLastStop calls)
        ↔ i ∈ inputs (throughLastStop calls')) →
      (∀ i, i ∈ inputs (sinceLastStop calls)
        ↔ i ∈ inputs (sinceLastStop calls')) →
      (runAll clientIp (.new sessionId) calls').throttle
          = (runAll clientIp (.new sessionId) calls).throttle
        ∧ (runAll clientIp (.new sessionId) calls').yaw
          = (runAll clientIp (.new sessionId) calls).yaw := by
  refine ⟨steeredByLatest clientIp sessionId hids hone, ?_⟩
  intro calls' hthrough hsince
  have hvalue := congrArg Register.value
    (controls_congr clientIp sessionId hone hthrough hsince)
  exact ⟨(congrArg Prod.fst hvalue).symm, (congrArg Prod.snd hvalue).symm⟩

end

end SessionCall

/-- The `Stop` of a client that has received nothing. -/
def quietStop : ClientMessage := Command.stop.message (fun _ => 0) {} 0

/-- An input, a `Stop`, and two later inputs in the wrong order, the newer
of them twice. -/
def reorderedCalls : List (SessionCall ℚ) :=
  [.udpThread (.applyControlInput 1 1 0), .message quietStop,
    .udpThread (.applyControlInput 3 2 (1 / 2)),
    .udpThread (.applyControlInput 2 (-1) 0), .message .reset,
    .udpThread (.applyControlInput 3 2 (1 / 2))]

/-- The same inputs, each once and in order. -/
def orderedCalls : List (SessionCall ℚ) :=
  [.udpThread (.applyControlInput 1 1 0), .message quietStop,
    .udpThread (.applyControlInput 2 (-1) 0),
    .udpThread (.applyControlInput 3 2 (1 / 2))]

theorem latest_input_wins_reordered :
    let session := SessionCall.runAll "127.0.0.1" (.new 1) reorderedCalls
    let session' := SessionCall.runAll "127.0.0.1" (.new 1) orderedCalls
    session.throttle = 1 ∧ session.yaw = 1 / 2
      ∧ session'.throttle = 1 ∧ session'.yaw = 1 / 2 := by
  intro session session'
  have hids : ∀ i ∈ SessionCall.inputs reorderedCalls, 0 < i.sequenceId := by
    decide +kernel
  have hone : SessionCall.OneInputPerId reorderedCalls := by
    unfold SessionCall.OneInputPerId
    decide +kernel
  obtain ⟨hwins, horder⟩ :=
    SessionCall.latest_input_wins "127.0.0.1" 1 hids hone
  obtain ⟨hthrottle, hyaw⟩ := hwins.fresh
    { sequenceId := 3, throttle := 2, yaw := 1 / 2 }
    (by decide +kernel) (by decide +kernel) (by decide +kernel)
  have hthrottle : session.throttle = 1 := hthrottle.trans (by decide +kernel)
  have hyaw : session.yaw = 1 / 2 := hyaw.trans (by decide +kernel)
  have hthrough : SessionCall.inputs (SessionCall.throughLastStop orderedCalls)
      = SessionCall.inputs (SessionCall.throughLastStop reorderedCalls) := by
    decide +kernel
  let older : SessionInput ℚ :=
    { sequenceId := 2, throttle := -1, yaw := 0 }
  let newer : SessionInput ℚ :=
    { sequenceId := 3, throttle := 2, yaw := 1 / 2 }
  have hsince : SessionCall.inputs (SessionCall.sinceLastStop reorderedCalls)
      = [newer, older, newer] := by decide +kernel
  have hsince' : SessionCall.inputs (SessionCall.sinceLastStop orderedCalls)
      = [older, newer] := by decide +kernel
  obtain ⟨hthrottle', hyaw'⟩ := horder orderedCalls
    (fun i => by rw [hthrough])
    (fun i => by
      rw [hsince, hsince']
      simp only [List.mem_cons, List.not_mem_nil, or_false]
      grind)
  exact ⟨hthrottle, hyaw, hthrottle'.trans hthrottle, hyaw'.trans hyaw⟩

end NetworkControl
