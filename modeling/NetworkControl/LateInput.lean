import NetworkControl.Steering

/-!
# A Stop and the inputs before it

One client and its session on two channels: commands over TCP, in order,
and control inputs over UDP, which may arrive late, in any order, again or
never. After a `Stop` the controls are neutral, and an input sent before it
should not steer any more.

The session only compares sequence ids, and `Stop` leaves those alone. So
an input from before a processed `Stop` is harmless when it has been
overtaken, or asks for what is there anyway (`Harmless`), and steers
otherwise: `stop_cancels_iff`.
-/

namespace NetworkControl

open FloatArith LatestWins

/-- `sent` counts what the client sent on either channel; everything sent
carries its number. `udp` keeps what was sent, delivered or not.
`steeredByStale` says whether an input sent before a `Stop` that had been
processed ever changed the controls. -/
structure ControlLink (F : Type) where
  session : ClientSession F
  udpReceiver : UdpReceiver := {}
  sent : Nat := 0
  tcp : List (Nat × ClientMessage) := []
  udp : List (Nat × ControlInput F) := []
  stopsProcessed : List Nat := []
  delivered : List UInt32 := []
  steeredByStale : Bool := false

/-- `deliver i` brings the `i`-th input sent to the server. -/
inductive ControlLinkAction (F : Type) where
  | sendControlInput (throttle yaw : F)
  | sendMessage (m : ClientMessage)
  | process
  | deliver (i : Nat)

namespace ControlLink

section

variable {F : Type}

/-- What was sent as number `n` was sent before a `Stop` that the server
has processed. -/
def Stale (s : ControlLink F) (n : Nat) : Prop :=
  ∃ stop ∈ s.stopsProcessed, n < stop

instance (s : ControlLink F) (n : Nat) : Decidable (s.Stale n) :=
  inferInstanceAs (Decidable (∃ stop ∈ s.stopsProcessed, n < stop))

/-- An input with at least this id has arrived. Ids start at 1. -/
def Overtaken (s : ControlLink F) (sequenceId : UInt32) : Prop :=
  sequenceId = 0 ∨ ∃ id ∈ s.delivered, sequenceId ≤ id

instance (s : ControlLink F) (sequenceId : UInt32) :
    Decidable (s.Overtaken sequenceId) :=
  inferInstanceAs (Decidable (_ ∨ _))

end

section

variable {F : Type} [FloatArith F] [DecidableEq F] (entityId : UInt32)
  (clientIp : String)

/-- `ApplyControlInput` with what a datagram carries. -/
def applied (s : ControlLink F) (input : ControlInput F) : ClientSession F :=
  s.session.applyControlInput input.sequenceId input.throttle input.yaw

def step (s : ControlLink F) :
    ControlLinkAction F → Option (ControlLink F)
  | .sendControlInput throttle yaw =>
      let (input, udpReceiver) := s.udpReceiver.sendControlInput entityId
        (clampToUnitRange throttle) (clampToUnitRange yaw)
      some { s with
        udpReceiver
        sent := s.sent + 1
        udp := s.udp ++ [(s.sent, input)] }
  | .sendMessage m =>
      some { s with sent := s.sent + 1, tcp := s.tcp ++ [(s.sent, m)] }
  | .process =>
      match s.tcp with
      | [] => none
      | (n, m) :: tcp =>
          some { s with
            session := m.runOn clientIp s.session
            tcp
            stopsProcessed :=
              if m.isStop then n :: s.stopsProcessed else s.stopsProcessed }
  | .deliver i =>
      match s.udp[i]? with
      | none => none
      | some (n, input) =>
          some { s with
            session := s.applied input
            delivered := input.sequenceId :: s.delivered
            steeredByStale := s.steeredByStale
              || decide (s.Stale n ∧ (s.applied input).controls.value
                ≠ s.session.controls.value) }

def system : Lts (ControlLink F) (ControlLinkAction F) where
  init s := ∃ sessionId, s = { session := .new sessionId }
  step := step entityId clientIp

/-- A delivery of a stale input finds it overtaken, or the controls as it
would set them. -/
def Harmless (s : ControlLink F) : ControlLinkAction F → Prop
  | .deliver i => ∀ x ∈ s.udp[i]?, s.Stale x.1 →
      s.Overtaken x.2.sequenceId
      ∨ SessionInput.clamped ⟨x.2.sequenceId, x.2.throttle, x.2.yaw⟩
        = s.session.controls.value
  | _ => True

instance (s : ControlLink F) :
    (a : ControlLinkAction F) → Decidable (s.Harmless a)
  | .deliver i => inferInstanceAs (Decidable (∀ x ∈ s.udp[i]?, _))
  | .sendControlInput _ _ | .sendMessage _ | .process => .isTrue trivial

/-! ## The mark is the greatest id that arrived -/

variable {entityId : UInt32} {clientIp : String} {s t : ControlLink F}
  {a : ControlLinkAction F}

structure Marked (s : ControlLink F) : Prop where
  above : ∀ id ∈ s.delivered, id.toNat ≤ s.session.controls.mark
  among : s.session.controls.mark = 0
    ∨ ∃ id ∈ s.delivered, s.session.controls.mark = id.toNat

omit [FloatArith F] [DecidableEq F] in
theorem Marked.overtaken (hs : s.Marked) (sequenceId : UInt32) :
    sequenceId.toNat ≤ s.session.controls.mark
      ↔ s.Overtaken sequenceId := by
  constructor
  · intro hle
    rcases hs.among with hzero | ⟨id, hid, hmark⟩
    · left
      rw [hzero, Nat.le_zero] at hle
      exact UInt32.toNat_inj.mp hle
    · rw [hmark] at hle
      exact Or.inr ⟨id, hid, UInt32.le_iff_toNat_le.mpr hle⟩
  · rintro (rfl | ⟨id, hid, hle⟩)
    · exact Nat.zero_le _
    · exact (UInt32.le_iff_toNat_le.mp hle).trans (hs.above id hid)

omit [DecidableEq F] in
theorem controls_applied (s : ControlLink F) (input : ControlInput F) :
    (s.applied input).controls = s.session.controls.apply
      ClientSession.neutral (.put input.sequenceId.toNat
        (SessionInput.clamped
          ⟨input.sequenceId, input.throttle, input.yaw⟩)) :=
  ClientSession.controls_applyControlInput s.session
    ⟨input.sequenceId, input.throttle, input.yaw⟩

omit [DecidableEq F] in
/-- No message changes the mark, not even `Stop`. -/
theorem runOn_mark (clientIp : String) (session : ClientSession F)
    (m : ClientMessage) :
    (m.runOn clientIp session).controls.mark = session.controls.mark := by
  have hrun := ClientSession.controls_run clientIp session (.message m)
  rw [SessionCall.run] at hrun
  rw [hrun]
  cases m <;> rfl

theorem marked_step (hs : s.Marked) (h : s.step entityId clientIp a = some t) :
    t.Marked := by
  cases a with
  | sendControlInput throttle yaw =>
      obtain rfl := Option.some.inj h
      exact ⟨hs.above, hs.among⟩
  | sendMessage m =>
      obtain rfl := Option.some.inj h
      exact ⟨hs.above, hs.among⟩
  | process =>
      rw [step] at h
      split at h
      · cases h
      · rename_i n m tcp hhead
        obtain rfl := Option.some.inj h
        have hmark := runOn_mark clientIp s.session m
        exact ⟨fun id hid => (hs.above id hid).trans hmark.ge,
          hs.among.imp hmark.trans fun ⟨id, hid, h⟩ =>
            ⟨id, hid, hmark.trans h⟩⟩
  | deliver i =>
      rw [step] at h
      split at h
      · cases h
      · rename_i n input hi
        obtain rfl := Option.some.inj h
        have hmark : (s.applied input).controls.mark
            = max s.session.controls.mark input.sequenceId.toNat := by
          rw [controls_applied, Register.apply_put_mark]
        refine ⟨?_, ?_⟩
        · intro id hid
          rw [hmark]
          rcases List.mem_cons.mp hid with rfl | hid
          · exact le_max_right _ _
          · exact (hs.above id hid).trans (le_max_left _ _)
        · rw [hmark]
          rcases max_choice s.session.controls.mark input.sequenceId.toNat with
            hmax | hmax
          · rw [hmax]
            exact hs.among.imp_right fun ⟨id, hid, h⟩ =>
              ⟨id, List.mem_cons_of_mem _ hid, h⟩
          · rw [hmax]
            exact Or.inr ⟨_, List.mem_cons_self, rfl⟩

/-- A step lets a stale input steer exactly if it is not harmless. -/
theorem steeredByStale_step (hs : s.Marked)
    (h : s.step entityId clientIp a = some t) :
    t.steeredByStale = false ↔ s.steeredByStale = false ∧ s.Harmless a := by
  cases a with
  | sendControlInput throttle yaw =>
      obtain rfl := Option.some.inj h
      exact (and_iff_left trivial).symm
  | sendMessage m =>
      obtain rfl := Option.some.inj h
      exact (and_iff_left trivial).symm
  | process =>
      rw [step] at h
      split at h
      · cases h
      · obtain rfl := Option.some.inj h
        exact (and_iff_left trivial).symm
  | deliver i =>
      rw [step] at h
      split at h
      · cases h
      · rename_i n input hi
        obtain rfl := Option.some.inj h
        have hharmless : s.Harmless (.deliver i) ↔ (s.Stale n →
            (s.applied input).controls.value = s.session.controls.value) := by
          simp only [Harmless, hi, Option.mem_def, Option.some.injEq,
            forall_eq', controls_applied, Register.apply_put_value_iff,
            hs.overtaken]
        rw [hharmless]
        simp only [Bool.or_eq_false_iff, decide_eq_false_iff_not, not_and,
          not_not, ne_eq]

/-- In every run: no input sent before a `Stop` changes the controls once
the server has processed that `Stop`, exactly if each delivery of such an
input is harmless. -/
theorem stop_cancels_iff (entityId : UInt32) (clientIp : String)
    (sessionId : UInt64) {as : List (ControlLinkAction F)}
    (h : (system entityId clientIp).run { session := .new sessionId } as
      = some s) :
    s.steeredByStale = false
      ↔ (system entityId clientIp).runUnder Harmless
        { session := .new sessionId } as = some s :=
  Lts.run_iff_runUnder (I := Marked) (fun _ _ _ hs => marked_step hs)
    (P := fun s => s.steeredByStale = false)
    (fun _ _ _ hs => steeredByStale_step hs)
    (show Marked { session := ClientSession.new sessionId } from
      ⟨fun _ hid => (nomatch hid), Or.inl rfl⟩) rfl h

end

/-! ## Two runs -/

def loopbackLink : Lts (ControlLink ℚ) (ControlLinkAction ℚ) :=
  system 1 "127.0.0.1"

/-- One input sent before the `Stop` arrives in time, the other after a
newer one from behind the `Stop`. -/
theorem stop_cancels_overtaken :
    ∃ s : ControlLink ℚ, s.steeredByStale = false
      ∧ s.stopsProcessed = [3] ∧ s.session.throttle = 1 / 2 := by
  let as : List (ControlLinkAction ℚ) :=
    [.sendMessage .play, .process, .sendControlInput 1 0, .deliver 0,
      .sendControlInput (-1) 0, .sendMessage quietStop, .process,
      .sendControlInput (1 / 2) 0, .deliver 2, .deliver 1]
  have hp : (loopbackLink.runUnder Harmless { session := .new 1 } as).any
      (fun s => s.stopsProcessed == [3]
        && s.session.throttle == 1 / 2) = true := by
    decide +kernel
  obtain ⟨s, hrun, hp⟩ := (Option.any_eq_true _ _).mp hp
  simp only [Bool.and_eq_true, beq_iff_eq] at hp
  exact ⟨s, (stop_cancels_iff 1 "127.0.0.1" 1
    (Lts.run_of_runUnder hrun)).mpr hrun, hp⟩

/-- The first input is late by one `Stop`. -/
theorem stopped_session_steered :
    ∃ s : ControlLink ℚ, loopbackLink.Reachable s
      ∧ s.steeredByStale = true ∧ s.tcp = []
      ∧ s.session.state = .stopped ∧ s.session.throttle = 1 := by
  obtain ⟨s, hs, hp⟩ := Lts.exists_reachable loopbackLink
    (s := { session := .new 1 }) ⟨1, rfl⟩
    [.sendMessage .play, .sendControlInput 1 0, .sendMessage quietStop,
      .process, .process, .deliver 0]
    (fun s => s.steeredByStale && s.tcp == [] && s.session.state == .stopped
      && s.session.throttle == 1)
    (by decide +kernel)
  simp only [Bool.and_eq_true, beq_iff_eq] at hp
  obtain ⟨⟨⟨hstale, htcp⟩, hstate⟩, hthrottle⟩ := hp
  exact ⟨s, hs, hstale, htcp, hstate, hthrottle⟩

end ControlLink

end NetworkControl
