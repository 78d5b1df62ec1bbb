import NetworkControl.Console
import NetworkControl.LateInput

/-!
# When the input ids wrap around

A client numbers its control inputs with 32 bits, and its session applies an
input only if its id is greater than the last one applied. Here every
datagram is delivered, once and in the order sent, so the only thing that
can come between an input and the session is the number it has.

Up to the id 2^32 - 1 every input is applied. After that one the session
applies no further one, however the client goes on counting, and the id 0
it never applies (`Heard`). A client that goes from one server to the next
counts on where it was, so a session can see the wrap early.
-/

namespace NetworkControl

open FloatArith LatestWins

/-- `steered` says whether every delivery left the session with the
throttle and yaw it carried. -/
structure OrderedInputs (F : Type) where
  link : ControlLink F
  steered : Bool := true

inductive OrderedInputsAction (F : Type) where
  | sendControlInput (throttle yaw : F)
  | sendMessage (m : ClientMessage)
  | process
  | deliver

namespace OrderedInputs

section

variable {F : Type}

/-- The input whose turn it is to arrive. -/
def nextInput (s : OrderedInputs F) : Option (ControlInput F) :=
  (s.link.udp[s.link.delivered.length]?).map Prod.snd

def linkAction (s : OrderedInputs F) :
    OrderedInputsAction F → ControlLinkAction F
  | .sendControlInput throttle yaw => .sendControlInput throttle yaw
  | .sendMessage m => .sendMessage m
  | .process => .process
  | .deliver => .deliver s.link.delivered.length

end

section

variable {F : Type} [FloatArith F] [DecidableEq F] (entityId : UInt32)
  (clientIp : String)

/-- The controls of the session are the ones in the datagram. -/
def Follows (session : ClientSession F) (input : ControlInput F) : Prop :=
  session.controls.value = (input.throttle, input.yaw)

omit [FloatArith F] in
instance (session : ClientSession F) (input : ControlInput F) :
    Decidable (Follows session input) :=
  inferInstanceAs (Decidable (_ = _))

def step (s : OrderedInputs F) (a : OrderedInputsAction F) :
    Option (OrderedInputs F) :=
  (s.link.step entityId clientIp (s.linkAction a)).map fun link =>
    { link
      steered :=
        match a with
        | .deliver => s.steered
            && decide (∀ input ∈ s.nextInput, Follows link.session input)
        | _ => s.steered }

/-- `first` is the number of inputs the client has sent before, to other
sessions. -/
def start (sessionId : UInt64) (first : UInt32) : OrderedInputs F where
  link :=
    { session := .new sessionId
      udpReceiver := { nextControlInputSequenceId := first } }

def system : Lts (OrderedInputs F) (OrderedInputsAction F) where
  init s := ∃ sessionId first, s = start sessionId first
  step := step entityId clientIp

/-- The session still hears the id. -/
def Heard (s : OrderedInputs F) (sequenceId : UInt32) : Prop :=
  sequenceId ≠ 0 ∧ 4294967295 ∉ s.link.delivered

instance (s : OrderedInputs F) (sequenceId : UInt32) :
    Decidable (s.Heard sequenceId) :=
  inferInstanceAs (Decidable (_ ∧ _))

/-- A delivery of an id the session hears, or of the values it has. -/
def GetsThrough (s : OrderedInputs F) : OrderedInputsAction F → Prop
  | .deliver => ∀ input ∈ s.nextInput,
      s.Heard input.sequenceId ∨ Follows s.link.session input
  | _ => True

instance (s : OrderedInputs F) :
    (a : OrderedInputsAction F) → Decidable (s.GetsThrough a)
  | .deliver => inferInstanceAs (Decidable (∀ input ∈ s.nextInput, _))
  | .sendControlInput _ _ | .sendMessage _ | .process => .isTrue trivial

/-! ## One input after the other -/

/-- The inputs are numbered from `first` on, arrive in that order, and
before the wrap the last one is the one the session has marked. -/
structure InStep (first : UInt32) (s : OrderedInputs F) : Prop where
  marked : s.link.Marked
  counter : s.link.udpReceiver.nextControlInputSequenceId
    = first + UInt32.ofNat s.link.udp.length
  numbered : ∀ i x, s.link.udp[i]? = some x →
    x.2.sequenceId = first + UInt32.ofNat (i + 1)
  clamped : ∀ x ∈ s.link.udp,
    SessionInput.clamped ⟨x.2.sequenceId, x.2.throttle, x.2.yaw⟩
      = (x.2.throttle, x.2.yaw)
  last : ∀ id ∈ s.link.delivered.head?,
    id = first + UInt32.ofNat s.link.delivered.length
  rising : 4294967295 ∉ s.link.delivered →
    s.link.session.controls.mark
      = s.link.delivered.head?.elim 0 UInt32.toNat

variable {entityId : UInt32} {clientIp : String} {first : UInt32}
  {s t : OrderedInputs F} {a : OrderedInputsAction F}

omit [DecidableEq F] in
theorem inStep_start (sessionId : UInt64) (first : UInt32) :
    InStep first (start sessionId first : OrderedInputs F) where
  marked := ⟨fun _ hid => (nomatch hid), Or.inl rfl⟩
  counter := (UInt32.add_zero first).symm
  numbered := fun _ _ hx => nomatch hx
  clamped := fun _ hx => nomatch hx
  last := fun _ hid => nomatch hid
  rising := fun _ => rfl

omit [DecidableEq F] in
theorem InStep.next_id (hs : InStep first s) {input : ControlInput F}
    (hinput : input ∈ s.nextInput) :
    input.sequenceId
      = first + UInt32.ofNat (s.link.delivered.length + 1) := by
  obtain ⟨x, hx, rfl⟩ := Option.map_eq_some_iff.mp hinput
  exact hs.numbered _ x hx

omit [DecidableEq F] in
/-- The id that comes next is one more than the last one. -/
theorem InStep.next_succ (hs : InStep first s) {input : ControlInput F}
    (hinput : input ∈ s.nextInput) {id : UInt32}
    (hid : id ∈ s.link.delivered.head?) : input.sequenceId = id + 1 := by
  rw [hs.next_id hinput, hs.last id hid, UInt32.ofNat_add, UInt32.add_assoc]
  rfl

theorem toNat_add_one {id : UInt32} (h : id ≠ 4294967295) :
    (id + 1).toNat = id.toNat + 1 := by
  have hne : id.toNat ≠ 4294967295 := fun heq => h (UInt32.toNat_inj.mp heq)
  have hlt := id.toNat_lt
  rw [UInt32.toNat_add]
  simp only [UInt32.toNat_one]
  omega

omit [DecidableEq F] in
/-- The session applies what it hears, and nothing else. -/
theorem InStep.mark_lt_iff (hs : InStep first s) {input : ControlInput F}
    (hinput : input ∈ s.nextInput) :
    s.link.session.controls.mark < input.sequenceId.toNat
      ↔ s.Heard input.sequenceId := by
  constructor
  · intro hlt
    refine ⟨?_, fun hmax => ?_⟩
    · intro hzero
      rw [hzero] at hlt
      exact Nat.not_lt_zero _ hlt
    · have hle := hs.marked.above _ hmax
      have hbound := input.sequenceId.toNat_lt
      have hvalue : (4294967295 : UInt32).toNat = 4294967295 := rfl
      omega
  · rintro ⟨hzero, hmax⟩
    rw [hs.rising hmax]
    cases hlast : s.link.delivered.head? with
    | none =>
        exact Nat.pos_of_ne_zero fun h => hzero (UInt32.toNat_inj.mp h)
    | some id =>
        have hne : id ≠ 4294967295 := by
          rintro rfl
          exact hmax (List.mem_of_mem_head? hlast)
        rw [hs.next_succ hinput hlast, toNat_add_one hne]
        exact Nat.lt_succ_self _

theorem InStep.sendControlInput [UnitLiterals F] (hs : InStep first s)
    (throttle yaw : F)
    (h : s.step entityId clientIp (.sendControlInput throttle yaw)
      = some t) : InStep first t := by
  obtain rfl := Option.some.inj h
  have hnext : s.link.udpReceiver.nextControlInputSequenceId + 1
      = first + UInt32.ofNat (s.link.udp.length + 1) := by
    rw [hs.counter, UInt32.ofNat_add, ← UInt32.add_assoc]
    rfl
  refine
    { hs with
      marked := ⟨hs.marked.above, hs.marked.among⟩
      counter := ?_, numbered := ?_, clamped := ?_ }
  · rw [List.length_append]
    exact hnext
  · intro i x hx
    by_cases hi : i < s.link.udp.length
    · rw [List.getElem?_append_left hi] at hx
      exact hs.numbered i x hx
    · rw [List.getElem?_append_right (Nat.not_lt.mp hi)] at hx
      obtain ⟨hzero, hx⟩ := List.getElem?_eq_some_iff.mp hx
      rw [List.length_singleton] at hzero
      obtain rfl : i = s.link.udp.length := by omega
      rw [← hx]
      simpa using hnext
  · intro x hx
    rcases List.mem_append.mp hx with hold | hnew
    · exact hs.clamped x hold
    · obtain rfl := List.mem_singleton.mp hnew
      exact Prod.ext (clampToUnitRange_idem throttle)
        (clampToUnitRange_idem yaw)

omit [DecidableEq F] in
/-- What a delivery leaves of the marks. -/
theorem InStep.deliver_rising (hs : InStep first s) {input : ControlInput F}
    (hinput : input ∈ s.nextInput)
    (hmax : 4294967295 ∉ input.sequenceId :: s.link.delivered) :
    s.link.session.controls.mark ≤ input.sequenceId.toNat := by
  have hbefore : 4294967295 ∉ s.link.delivered :=
    fun hmem => hmax (List.mem_cons_of_mem _ hmem)
  rw [hs.rising hbefore]
  cases hlast : s.link.delivered.head? with
  | none => exact Nat.zero_le _
  | some id =>
      have hne : id ≠ 4294967295 := by
        rintro rfl
        exact hbefore (List.mem_of_mem_head? hlast)
      rw [hs.next_succ hinput hlast, toNat_add_one hne]
      exact Nat.le_succ _

theorem inStep_step [UnitLiterals F] (hs : InStep first s)
    (h : s.step entityId clientIp a = some t) : InStep first t := by
  have hmarked : t.link.Marked := by
    obtain ⟨link, hlink, rfl⟩ := Option.map_eq_some_iff.mp h
    exact ControlLink.marked_step hs.marked hlink
  cases a with
  | sendControlInput throttle yaw => exact hs.sendControlInput _ _ h
  | sendMessage m =>
      obtain rfl := Option.some.inj h
      exact { hs with marked := hmarked }
  | process =>
      obtain ⟨link, hlink, rfl⟩ := Option.map_eq_some_iff.mp h
      rw [linkAction, ControlLink.step] at hlink
      split at hlink
      · cases hlink
      · rename_i n m tcp htcp
        obtain rfl := Option.some.inj hlink
        exact { hs with
          marked := hmarked
          rising := fun hmax =>
            (ControlLink.runOn_mark clientIp _ m).trans (hs.rising hmax) }
  | deliver =>
      obtain ⟨link, hlink, rfl⟩ := Option.map_eq_some_iff.mp h
      rw [linkAction, ControlLink.step] at hlink
      split at hlink
      · cases hlink
      · rename_i n input hi
        obtain rfl := Option.some.inj hlink
        have hinput : input ∈ s.nextInput :=
          Option.map_eq_some_iff.mpr ⟨_, hi, rfl⟩
        refine { hs with marked := hmarked, last := ?_, rising := ?_ }
        · rintro id ⟨⟩
          exact hs.next_id hinput
        · intro hmax
          show (s.link.applied input).controls.mark = input.sequenceId.toNat
          rw [ControlLink.controls_applied, Register.apply_put_mark]
          exact max_eq_right (hs.deliver_rising hinput hmax)

omit [DecidableEq F] in
theorem InStep.follows_iff (hs : InStep first s) {input : ControlInput F}
    (hinput : input ∈ s.nextInput)
    (hclamped : SessionInput.clamped
      ⟨input.sequenceId, input.throttle, input.yaw⟩
        = (input.throttle, input.yaw)) :
    Follows (s.link.applied input) input
      ↔ s.Heard input.sequenceId ∨ Follows s.link.session input := by
  have hheard := hs.mark_lt_iff hinput
  unfold Follows
  rw [ControlLink.controls_applied, Register.apply]
  split
  · rename_i hold
    exact (or_iff_right (mt hheard.mpr (Nat.not_lt.mpr hold))).symm
  · rename_i hnews
    exact iff_of_true hclamped (Or.inl (hheard.mp (Nat.not_le.mp hnews)))

/-- A delivery brings the session to the controls sent exactly if it gets
through. -/
theorem steered_step (hs : InStep first s)
    (h : s.step entityId clientIp a = some t) :
    t.steered = true ↔ s.steered = true ∧ s.GetsThrough a := by
  cases a with
  | sendControlInput throttle yaw =>
      obtain rfl := Option.some.inj h
      exact (and_iff_left trivial).symm
  | sendMessage m =>
      obtain rfl := Option.some.inj h
      exact (and_iff_left trivial).symm
  | process =>
      obtain ⟨link, hlink, rfl⟩ := Option.map_eq_some_iff.mp h
      exact (and_iff_left trivial).symm
  | deliver =>
      obtain ⟨link, hlink, rfl⟩ := Option.map_eq_some_iff.mp h
      rw [linkAction, ControlLink.step] at hlink
      split at hlink
      · cases hlink
      · rename_i n input hi
        obtain rfl := Option.some.inj hlink
        have hnext : s.nextInput = some input := by
          rw [nextInput, hi]
          rfl
        have hvalue : Follows (s.link.applied input) input
            ↔ s.Heard input.sequenceId ∨ Follows s.link.session input :=
          hs.follows_iff hnext (hs.clamped _ (List.mem_of_getElem? hi))
        simp only [Bool.and_eq_true, decide_eq_true_eq, GetsThrough, hnext,
          Option.mem_def, Option.some.injEq, forall_eq', hvalue]

/-- In every run: after every delivery the session has the throttle and yaw
just sent, exactly if each delivery is of an id other than 0 and before the
id 2^32 - 1 has been delivered, or of the values the session has anyway. -/
theorem inputs_followed_iff [UnitLiterals F] (entityId : UInt32)
    (clientIp : String) (sessionId : UInt64) (first : UInt32)
    {as : List (OrderedInputsAction F)}
    (h : (system entityId clientIp).run (start sessionId first) as = some s) :
    s.steered = true
      ↔ (system entityId clientIp).runUnder GetsThrough
        (start sessionId first) as = some s :=
  Lts.run_iff_runUnder (I := InStep first)
    (fun _ _ _ hs => inStep_step hs)
    (P := fun s => s.steered = true)
    (fun _ _ _ hs => steered_step hs)
    (inStep_start sessionId first) rfl h

/-! ## Any number of inputs -/

/-- When everything has arrived, what the client sends arrives next. -/
theorem exists_send (entityId : UInt32) (clientIp : String)
    (harrived : s.link.delivered.length = s.link.udp.length)
    (throttle yaw : F) :
    ∃ t, s.step entityId clientIp (.sendControlInput throttle yaw) = some t
      ∧ t.nextInput = some
        { entityId
          sequenceId := s.link.udpReceiver.nextControlInputSequenceId + 1
          throttle := clampToUnitRange throttle
          yaw := clampToUnitRange yaw }
      ∧ t.link.session = s.link.session
      ∧ t.link.delivered = s.link.delivered
      ∧ t.link.udp.length = s.link.udp.length + 1 := by
  refine ⟨_, rfl, ?_, rfl, rfl, List.length_append⟩
  show Option.map Prod.snd
    ((s.link.udp ++ [_])[s.link.delivered.length]?) = _
  rw [harrived, List.getElem?_concat_length]
  rfl

theorem exists_deliver (entityId : UInt32) (clientIp : String)
    {input : ControlInput F} (hinput : s.nextInput = some input) :
    ∃ t, s.step entityId clientIp .deliver = some t
      ∧ t.link.session = s.link.applied input
      ∧ t.link.delivered.length = s.link.delivered.length + 1
      ∧ t.link.udp = s.link.udp := by
  obtain ⟨⟨n, input'⟩, hi, rfl⟩ := Option.map_eq_some_iff.mp hinput
  simp only [step, linkAction, ControlLink.step, hi]
  exact ⟨_, rfl, rfl, rfl, rfl⟩

end

def loopbackInputs : Lts (OrderedInputs ℚ) (OrderedInputsAction ℚ) :=
  system 1 "127.0.0.1"

/-- The last two ids before the wrap, with a `Stop` in between, and the
first one behind it, which repeats the input before. -/
theorem inputs_followed_repeated :
    ∃ s : OrderedInputs ℚ, s.steered = true
      ∧ s.link.delivered = [0, 4294967295, 4294967294] := by
  let as : List (OrderedInputsAction ℚ) :=
    [.sendControlInput 1 0, .deliver, .sendMessage quietStop, .process,
      .sendControlInput (1 / 2) 0, .sendControlInput (1 / 2) 0, .deliver,
      .deliver]
  have hp : (loopbackInputs.runUnder GetsThrough (start 1 4294967293)
      as).any (fun s => s.link.delivered == [0, 4294967295, 4294967294])
        = true := by
    decide +kernel
  obtain ⟨s, hrun, hp⟩ := (Option.any_eq_true _ _).mp hp
  exact ⟨s, (inputs_followed_iff 1 "127.0.0.1" 1 4294967293
    (Lts.run_of_runUnder hrun)).mpr hrun, eq_of_beq hp⟩

/-! ## A client that never stops steering -/

theorem run_round {s mid t : OrderedInputs ℚ} {throttle yaw : ℚ}
    (hsend : s.step 1 "127.0.0.1" (.sendControlInput throttle yaw)
      = some mid)
    (hdeliver : mid.step 1 "127.0.0.1" .deliver = some t) :
    loopbackInputs.run s [.sendControlInput throttle yaw, .deliver]
      = some t := by
  simp only [loopbackInputs, system, Lts.run, hsend, hdeliver,
    Option.bind_some]

/-- The controls are neutral after any number of neutral inputs. -/
theorem exists_neutral (n : Nat) :
    ∃ as s, loopbackInputs.run (start 1 0) as = some s
      ∧ s.link.udp.length = n ∧ s.link.delivered.length = n
      ∧ s.link.session.controls.value = (0, 0) := by
  induction n with
  | zero => exact ⟨[], _, rfl, rfl, rfl, rfl⟩
  | succ n ih =>
      obtain ⟨as, s, hrun, hsent, harrived, hneutral⟩ := ih
      obtain ⟨mid, hsend, hinput, hsession, hdelivered, hudp⟩ :=
        exists_send 1 "127.0.0.1" (harrived.trans hsent.symm) 0 0
      obtain ⟨t, hdeliver, happlied, hlength, hsame⟩ :=
        exists_deliver 1 "127.0.0.1" hinput
      refine ⟨as ++ [.sendControlInput 0 0, .deliver], t, ?_, ?_, ?_, ?_⟩
      · rw [Lts.run_append, hrun, Option.bind_some]
        exact run_round hsend hdeliver
      · rw [hsame, hudp, hsent]
      · rw [hlength, hdelivered, harrived]
      · rw [happlied, ControlLink.controls_applied, Register.apply]
        split
        · rw [hsession]
          exact hneutral
        · have hzero : clampToUnitRange (clampToUnitRange (0 : ℚ)) = 0 := by
            decide +kernel
          exact Prod.ext hzero hzero

/-- The client sends 2^32 - 1 neutral inputs and then full throttle, which
has the id 0. -/
theorem inputs_go_dead :
    ¬ ∀ as s, loopbackInputs.run (start 1 0) as = some s →
      s.steered = true := by
  intro hall
  obtain ⟨as, s, hrun, hsent, harrived, hneutral⟩ :=
    exists_neutral 4294967295
  have hs : InStep 0 s := Lts.run_invariant (L := loopbackInputs)
    (fun _ _ _ hs => inStep_step hs) (inStep_start 1 0) hrun
  have hmax : 4294967295 ∈ s.link.delivered := by
    cases hdelivered : s.link.delivered with
    | nil =>
        rw [hdelivered] at harrived
        cases harrived
    | cons id rest =>
        have hlast := hs.last id (by rw [hdelivered]; rfl)
        rw [harrived] at hlast
        rw [show (4294967295 : UInt32) = id from hlast.symm]
        exact List.mem_cons_self
  obtain ⟨mid, hsend, hinput, hsession, hdelivered, -⟩ :=
    exists_send 1 "127.0.0.1" (harrived.trans hsent.symm) 1 0
  obtain ⟨t, hdeliver, -⟩ := exists_deliver 1 "127.0.0.1" hinput
  have hdropped : ¬ mid.GetsThrough .deliver := by
    intro hthrough
    rcases hthrough _ hinput with hheard | hfollows
    · exact hheard.2 (hdelivered ▸ hmax)
    · rw [Follows, hsession, hneutral] at hfollows
      have hfull : (0 : ℚ) = clampToUnitRange 1 := congrArg Prod.fst hfollows
      exact absurd hfull (by decide +kernel)
  have ht : t.steered = true := by
    refine hall (as ++ [.sendControlInput 1 0, .deliver]) t ?_
    rw [Lts.run_append, hrun, Option.bind_some]
    exact run_round hsend hdeliver
  exact hdropped ((steered_step (inStep_step hs hsend) hdeliver).mp ht).2

end OrderedInputs

end NetworkControl
