import Mathlib.Data.List.Chain
import Mathlib.Logic.Function.Iterate
import NetworkControl.ClientSession

/-!
# UdpStreamingService

`Server/UdpStreamingService.cpp`: one iteration of `Worker`, from the
elapsed ticks the timer returns to the packets handed to `SendTo`. The
entities are collected once and serialised once; each recipient then gets
the shared buffer with its own sequence id patched in.

The rest of the development consumes `broadcast` (what a packet holds,
in `UdpReceiver`) and the pacing law of a 30 Hz recipient at the end.
-/

namespace NetworkControl

open Endian FloatArith

structure Ipv4Endpoint where
  address : UInt32
  port : UInt16
deriving DecidableEq, Repr

/-- `Ipv4Endpoint::TryCreate`; `inetPton` is the system's conversion of a
dotted address. -/
def Ipv4Endpoint.tryCreate (inetPton : String → Option UInt32) (ip : String)
    (port : UInt16) : Option Ipv4Endpoint :=
  (inetPton ip).map fun address => { address, port }

/-- One `SendTo` of the worker, and the session it is for. -/
structure Sent where
  sessionId : UInt64
  destination : Ipv4Endpoint
  packet : List UInt8
deriving DecidableEq, Repr

/-! ## One iteration of Worker -/

section

variable {F : Type} [FloatArith F] (host : ByteOrder)
  (inetPton : String → Option UInt32)

/-- `FixedDeltaSeconds`, as `StepPhysics` casts it. -/
def fixedDeltaSeconds : F := ofRat (1 / 60)

/-- The physics of the ticks that went by. -/
def stepElapsed (elapsedTicks : UInt64) (session : ClientSession F) :
    ClientSession F :=
  if session.state = .playing then
    (fun s => s.stepPhysics fixedDeltaSeconds)^[elapsedTicks.toNat] session
  else session

def collectEntries (sessions : List (ClientSession F)) :
    List EntityStateEntry :=
  (sessions.filter fun session => session.state = .playing).map
    ClientSession.buildEntityStateEntry

def serializePacket (batch : EntityStateBatchPayload) : List UInt8 :=
  (serializeEntityStateBatch host (serializeHeader {} .entityState) batch).data

/-- Where this tick's packet for `recipient` goes, or `none` where the
loop continues with the next recipient. -/
def recipientEndpoint (tickCount : UInt64) (recipient : ClientSession F) :
    Option Ipv4Endpoint :=
  if recipient.state ≠ .playing then none
  else if recipient.dataRate = .hz30 ∧ tickCount % 2 ≠ 0 then none
  else
    match recipient.tryGetUdpEndpoint with
    | none => none
    | some (ip, port) => Ipv4Endpoint.tryCreate inetPton ip port

/-- The loop over the recipients, patching one buffer. -/
def sendToRecipients (tickCount : UInt64) :
    List UInt8 → List (ClientSession F) → List (ClientSession F) × List Sent
  | _, [] => ([], [])
  | packet, recipient :: recipients =>
      match recipientEndpoint inetPton tickCount recipient with
      | none =>
          let (recipients, sent) :=
            sendToRecipients tickCount packet recipients
          (recipient :: recipients, sent)
      | some destination =>
          let (sequenceId, recipient) := recipient.getNextSequenceId
          let packet := patchEntityStateSequenceId host packet sequenceId
          let (recipients, sent) :=
            sendToRecipients tickCount packet recipients
          (recipient :: recipients,
            ⟨recipient.sessionId, destination, packet⟩ :: sent)

/-- Steps 2 and 3: nothing at all when nobody is playing. -/
def broadcast (tickCount timestamp : UInt64)
    (sessions : List (ClientSession F)) :
    List (ClientSession F) × List Sent :=
  let entries := collectEntries sessions
  if entries.isEmpty then (sessions, [])
  else
    let batch : EntityStateBatchPayload :=
      { sequenceId := 0, timestamp, entities := entries }
    sendToRecipients host inetPton tickCount (serializePacket host batch)
      sessions

/-- What one iteration leaves: the counter, the sessions, the sends. -/
structure Iteration (F : Type) where
  tickCount : UInt64
  sessions : List (ClientSession F)
  sent : List Sent

def workerIteration (tickCount elapsedTicks timestamp : UInt64)
    (sessions : List (ClientSession F)) : Iteration F :=
  let tickCount := tickCount + elapsedTicks
  let sessions := sessions.map (stepElapsed elapsedTicks)
  let (sessions, sent) := broadcast host inetPton tickCount timestamp sessions
  { tickCount, sessions, sent }

end

/-! ## What is sent -/

/-- The bytes of a whole `EntityState` packet. -/
def entityStatePacket (batch : EntityStateBatchPayload) : List UInt8 :=
  MessageType.entityState.toUInt8 :: entityStateBatchBytes batch

theorem serializePacket_eq (host : ByteOrder)
    (batch : EntityStateBatchPayload) :
    serializePacket host batch = entityStatePacket batch := by
  rw [serializePacket, serializeEntityStateBatch_data, serializeHeader_data]
  rfl

/-! ## Who is sent to -/

section

variable {F : Type} [FloatArith F] (host : ByteOrder)
  (inetPton : String → Option UInt32)

theorem stepElapsed_keeps {β : Type} (view : ClientSession F → β)
    (hview : ∀ s, view (s.stepPhysics fixedDeltaSeconds) = view s)
    (elapsedTicks : UInt64) (s : ClientSession F) :
    view (stepElapsed elapsedTicks s) = view s := by
  have hiter : ∀ (n : Nat) (s : ClientSession F),
      view ((fun s => s.stepPhysics fixedDeltaSeconds)^[n] s) = view s := by
    intro n
    induction n with
    | zero => intro s; rfl
    | succ n ih => intro s; rw [Function.iterate_succ_apply, ih, hview]
  rw [stepElapsed]
  split
  · exact hiter _ s
  · rfl

omit [FloatArith F] in
theorem sendToRecipients_sessionIds (tickCount : UInt64) :
    ∀ (sessions : List (ClientSession F)) (packet : List UInt8),
      (sendToRecipients host inetPton tickCount packet sessions).2.map
          Sent.sessionId
        = (sessions.filter fun s =>
            (recipientEndpoint inetPton tickCount s).isSome).map
              ClientSession.sessionId
  | [], _ => rfl
  | recipient :: recipients, packet => by
      rw [sendToRecipients]
      split
      · rename_i hnone
        rw [List.filter_cons_of_neg (by simp [hnone])]
        exact sendToRecipients_sessionIds tickCount recipients packet
      · rename_i destination hsome
        rw [List.filter_cons_of_pos (by simp [hsome]), List.map_cons,
          List.map_cons, sendToRecipients_sessionIds tickCount recipients]
        rfl

omit [FloatArith F] in
/-- A 30 Hz session that is playing is a recipient at even ticks only. -/
theorem recipientEndpoint_hz30 (tickCount : UInt64) {s : ClientSession F}
    {ip : String} {port : UInt16} (hstate : s.state = .playing)
    (hrate : s.dataRate = .hz30)
    (hendpoint : s.tryGetUdpEndpoint = some (ip, port))
    (hip : (inetPton ip).isSome) :
    (recipientEndpoint inetPton tickCount s).isSome
      = decide (tickCount % 2 = 0) := by
  by_cases heven : tickCount % 2 = 0
  · simp [recipientEndpoint, hstate, hrate, heven, hendpoint,
      Ipv4Endpoint.tryCreate, hip]
  · simp [recipientEndpoint, hstate, hrate, heven]

end

/-! ## Runs of Worker -/

/-- What an iteration meets: the timer's answer, the clock, and the
snapshot of the session map, whose keys are distinct. -/
structure Tick (F : Type) where
  elapsedTicks : UInt64
  timestamp : UInt64
  sessions : List (ClientSession F)
  nodup : (sessions.map ClientSession.sessionId).Nodup

section

variable {F : Type} [FloatArith F] (host : ByteOrder)
  (inetPton : String → Option UInt32)

/-- The iterations from a given `tickCount`, each with its own count and
its sends. Other threads may change the sessions in between, so each
snapshot is any. -/
def runWorker : UInt64 → List (Tick F) → List (UInt64 × List Sent)
  | _, [] => []
  | tickCount, tick :: ticks =>
      let after := workerIteration host inetPton tickCount tick.elapsedTicks
        tick.timestamp tick.sessions
      (after.tickCount, after.sent) :: runWorker after.tickCount ticks

/-- The `tickCount` of every packet sent to session `id`. -/
def packetsTo (id : UInt64) (log : List (UInt64 × List Sent)) :
    List UInt64 :=
  log.flatMap fun entry =>
    List.replicate ((entry.2.map Sent.sessionId).count id) entry.1

/-- 30 Hz pacing: packets at least two ticks apart, and in any `n`
consecutive iterations at least `n / 2` of them. -/
structure Paced (id : UInt64) (log : List (UInt64 × List Sent)) : Prop where
  apart : (packetsTo id log).Pairwise fun a b =>
    2 ≤ b.toNat - a.toNat ∨ 2 ≤ a.toNat - b.toNat
  often : ∀ first n, first + n ≤ log.length →
    n / 2 ≤ (packetsTo id ((log.drop first).take n)).length

/-- In this iteration session `id` is playing at 30 Hz with a valid
endpoint. -/
def StreamsAt30Hz (id : UInt64) (tick : Tick F) : Prop :=
  ∃ s ∈ tick.sessions, s.sessionId = id ∧ s.state = .playing
    ∧ s.dataRate = .hz30 ∧ ∃ ip port, s.tryGetUdpEndpoint = some (ip, port)
      ∧ (inetPton ip).isSome

variable {inetPton}

/-- One packet at an even tick, none at an odd one. -/
theorem workerIteration_count {id : UInt64} (tickCount : UInt64)
    {tick : Tick F} (h : StreamsAt30Hz inetPton id tick) :
    ((workerIteration host inetPton tickCount tick.elapsedTicks
        tick.timestamp tick.sessions).sent.map Sent.sessionId).count id
      = if (tickCount + tick.elapsedTicks) % 2 = 0 then 1 else 0 := by
  obtain ⟨s, hs, hid, hstate, hrate, ip, port, hendpoint, hip⟩ := h
  have hs' := List.mem_map_of_mem (f := stepElapsed tick.elapsedTicks) hs
  have hkeep : ∀ {β : Type} (view : ClientSession F → β),
      (∀ s, view (s.stepPhysics fixedDeltaSeconds) = view s) →
        view (stepElapsed tick.elapsedTicks s) = view s := fun view hview =>
    stepElapsed_keeps view hview tick.elapsedTicks s
  have hstate' := (hkeep ClientSession.state fun _ => rfl).trans hstate
  have hendpoint' :=
    (hkeep ClientSession.tryGetUdpEndpoint fun _ => rfl).trans hendpoint
  have hrate' := (hkeep ClientSession.dataRate fun _ => rfl).trans hrate
  have hid' := (hkeep ClientSession.sessionId fun _ => rfl).trans hid
  have hentries : (collectEntries
      (tick.sessions.map (stepElapsed tick.elapsedTicks))).isEmpty
        = false := by
    rw [List.isEmpty_eq_false_iff, collectEntries]
    exact List.ne_nil_of_mem (List.mem_map_of_mem
      (List.mem_filter.mpr ⟨hs', decide_eq_true hstate'⟩))
  have hnodup : ((tick.sessions.map (stepElapsed tick.elapsedTicks)).map
      ClientSession.sessionId).Nodup := by
    have hids : (tick.sessions.map (stepElapsed tick.elapsedTicks)).map
        ClientSession.sessionId = tick.sessions.map ClientSession.sessionId := by
      rw [List.map_map]
      exact List.map_congr_left fun t _ =>
        stepElapsed_keeps ClientSession.sessionId (fun _ => rfl) _ t
    rw [hids]
    exact tick.nodup
  have hsome := recipientEndpoint_hz30 inetPton
    (tickCount + tick.elapsedTicks) hstate' hrate' hendpoint' hip
  simp only [workerIteration, broadcast, hentries, if_false,
    Bool.false_eq_true, sendToRecipients_sessionIds]
  split
  · rename_i heven
    refine List.count_eq_one_of_mem (hnodup.sublist
      (List.filter_sublist.map _)) ?_
    rw [← hid']
    refine List.mem_map_of_mem (List.mem_filter.mpr ⟨hs', ?_⟩)
    rw [hsome]
    exact decide_eq_true heven
  · rename_i hodd
    refine List.count_eq_zero_of_not_mem fun hmem => ?_
    obtain ⟨t, ht, htid⟩ := List.mem_map.mp hmem
    obtain ⟨htmem, htsome⟩ := List.mem_filter.mp ht
    have hts : t = stepElapsed tick.elapsedTicks s :=
      List.inj_on_of_nodup_map hnodup htmem hs' (htid.trans hid'.symm)
    rw [hts, hsome] at htsome
    exact hodd (of_decide_eq_true htsome)

/-! ## The pacing law -/

/-- Wherever the ticks so far add up to an odd number, the next step is
odd: two consecutive iterations are never both at an odd `tickCount`. -/
def NeverTwoOdd : Nat → List Nat → Prop
  | _, [] => True
  | total, e :: es =>
      (total % 2 = 1 → e % 2 = 1) ∧ NeverTwoOdd (total + e) es

/-- The iterations at which a 30 Hz recipient is due. -/
def due (log : List (UInt64 × List Sent)) : List Bool :=
  log.map fun entry => decide (entry.1 % 2 = 0)

theorem even_iff_toNat (n : UInt64) : n % 2 = 0 ↔ n.toNat % 2 = 0 := by
  rw [← UInt64.toNat_inj, UInt64.toNat_mod]
  rfl

/-- Every packet goes out at a due iteration, one each. -/
theorem packetsTo_runWorker {id : UInt64} : ∀ {ticks : List (Tick F)},
    (∀ tick ∈ ticks, StreamsAt30Hz inetPton id tick) →
      ∀ tickCount, ∀ log, log <:+: runWorker host inetPton tickCount ticks →
        packetsTo id log = (log.map Prod.fst).filter (· % 2 = 0) := by
  intro ticks hall tickCount log hlog
  have hentry : ∀ entry ∈ runWorker host inetPton tickCount ticks,
      (entry.2.map Sent.sessionId).count id
        = if entry.1 % 2 = 0 then 1 else 0 := by
    clear hlog
    induction ticks generalizing tickCount with
    | nil => intro entry h; cases h
    | cons tick ticks ih =>
        intro entry h
        rcases List.mem_cons.mp h with rfl | h
        · exact workerIteration_count host tickCount
            (hall tick List.mem_cons_self)
        · exact ih (fun t ht => hall t (List.mem_cons_of_mem _ ht)) _ entry h
  have hpart : ∀ part : List (UInt64 × List Sent),
      (∀ entry ∈ part, (entry.2.map Sent.sessionId).count id
        = if entry.1 % 2 = 0 then 1 else 0) →
      packetsTo id part = (part.map Prod.fst).filter (· % 2 = 0) := by
    intro part
    induction part with
    | nil => intro _; rfl
    | cons entry part ih =>
        intro h
        have hhead := h entry List.mem_cons_self
        have htail := ih fun e he => h e (List.mem_cons_of_mem _ he)
        rw [packetsTo, List.flatMap_cons, hhead, ← packetsTo, htail]
        by_cases heven : entry.1 % 2 = 0
        · simp [heven]
        · simp [heven]
  exact hpart log fun entry h => hentry entry (hlog.subset h)

theorem neverTwoOdd_congr : ∀ {a b : Nat} {es : List Nat}, a % 2 = b % 2 →
    (NeverTwoOdd a es ↔ NeverTwoOdd b es)
  | _, _, [], _ => Iff.rfl
  | a, b, e :: es, h => by
      rw [NeverTwoOdd, NeverTwoOdd, h,
        neverTwoOdd_congr (a := a + e) (b := b + e) (by omega)]

variable (inetPton) in
theorem due_isChain_iff : ∀ (ticks : List (Tick F)) (tickCount : UInt64),
    (decide (tickCount % 2 = 0)
        :: due (runWorker host inetPton tickCount ticks)).IsChain
      (fun x y => x = true ∨ y = true)
    ↔ NeverTwoOdd tickCount.toNat
        (ticks.map fun tick => tick.elapsedTicks.toNat)
  | [], _ => by simp [due, runWorker, NeverTwoOdd]
  | tick :: ticks, tickCount => by
      have ih := due_isChain_iff ticks (tickCount + tick.elapsedTicks)
      have hparity : (tickCount + tick.elapsedTicks).toNat % 2
          = (tickCount.toNat + tick.elapsedTicks.toNat) % 2 := by
        rw [UInt64.toNat_add]
        omega
      rw [neverTwoOdd_congr hparity] at ih
      have hhead : (decide (tickCount % 2 = 0) = true
          ∨ decide ((tickCount + tick.elapsedTicks) % 2 = 0) = true)
          ↔ (tickCount.toNat % 2 = 1 → tick.elapsedTicks.toNat % 2 = 1) := by
        rw [decide_eq_true_iff, decide_eq_true_iff, even_iff_toNat,
          even_iff_toNat, hparity]
        omega
      rw [List.map_cons, NeverTwoOdd, ← ih, ← hhead]
      exact List.isChain_cons_cons

/-- In a list without two adjacent `false`s at least half is `true`. -/
theorem half_le_count : ∀ {l : List Bool},
    l.IsChain (fun x y => x = true ∨ y = true) → l.length / 2 ≤ l.count true
  | [], _ => Nat.zero_le _
  | [x], _ => by simp
  | x :: y :: l, h => by
      obtain ⟨hxy, hyl⟩ := List.isChain_cons_cons.mp h
      have ih := half_le_count hyl.tail
      simp only [List.tail_cons] at ih
      rcases hxy with rfl | rfl
      · simp only [List.count_cons, List.length_cons]
        cases y <;> simp <;> omega
      · simp only [List.count_cons, List.length_cons]
        cases x <;> simp <;> omega

/-- This is so in every window exactly if no two adjacent are `false`. -/
theorem isChain_iff_windows {l : List Bool} :
    l.IsChain (fun x y => x = true ∨ y = true)
      ↔ ∀ first n, first + n ≤ l.length →
          n / 2 ≤ ((l.drop first).take n).count true := by
  constructor
  · intro h first n hn
    have hhalf := half_le_count ((h.drop first).take n)
    rwa [List.length_take, List.length_drop, Nat.min_eq_left (by omega)]
      at hhalf
  · intro h
    rw [List.isChain_iff_getElem]
    intro i hi
    have hwindow := h i 2 (by omega)
    rw [List.drop_eq_getElem_cons (by omega),
      List.drop_eq_getElem_cons (by omega)] at hwindow
    cases hx : l[i] <;> cases hy : l[i + 1] <;> simp_all

variable (inetPton) in
/-- Until the count wraps it only grows. -/
theorem runWorker_increasing : ∀ (ticks : List (Tick F)) (tickCount : UInt64),
    (∀ tick ∈ ticks, 1 ≤ tick.elapsedTicks.toNat) →
    tickCount.toNat
      + (ticks.map fun tick => tick.elapsedTicks.toNat).sum < 2 ^ 64 →
    (tickCount :: (runWorker host inetPton tickCount ticks).map
      Prod.fst).Pairwise fun a b => a.toNat < b.toNat
  | [], _, _, _ => by simp [runWorker]
  | tick :: ticks, tickCount, hpos, hfits => by
      rw [List.map_cons, List.sum_cons] at hfits
      have hhead := hpos tick List.mem_cons_self
      have hsum : (tickCount + tick.elapsedTicks).toNat
          = tickCount.toNat + tick.elapsedTicks.toNat := by
        rw [UInt64.toNat_add, Nat.mod_eq_of_lt (by omega)]
      have ih := runWorker_increasing ticks (tickCount + tick.elapsedTicks)
        (fun t ht => hpos t (List.mem_cons_of_mem _ ht)) (by omega)
      refine List.pairwise_cons.mpr ⟨fun n hn => ?_, ih⟩
      rcases List.mem_cons.mp hn with rfl | hn
      · show tickCount.toNat < (tickCount + tick.elapsedTicks).toNat
        omega
      · have hlt := List.rel_of_pairwise_cons ih hn
        omega

/-- A session that streams at 30 Hz throughout is paced exactly when no
two consecutive iterations are both at an odd `tickCount`. The ticks sum
up to the timer's own 64-bit counter. -/
theorem hz30_paced_iff {id : UInt64} {ticks : List (Tick F)}
    (hstreams : ∀ tick ∈ ticks, StreamsAt30Hz inetPton id tick)
    (hpos : ∀ tick ∈ ticks, 1 ≤ tick.elapsedTicks.toNat)
    (hfits : (ticks.map fun tick => tick.elapsedTicks.toNat).sum < 2 ^ 64) :
    Paced id (runWorker host inetPton 0 ticks)
      ↔ NeverTwoOdd 0 (ticks.map fun tick => tick.elapsedTicks.toNat) := by
  have hpackets := packetsTo_runWorker host hstreams 0
  have hcount : ∀ log, log <:+: runWorker host inetPton 0 ticks →
      (packetsTo id log).length = (due log).count true := by
    intro log hlog
    rw [hpackets log hlog, due, List.count_eq_countP, List.countP_map,
      ← List.countP_eq_length_filter, List.countP_map]
    exact List.countP_congr fun entry _ => by simp
  have hoften : (∀ first n,
      first + n ≤ (runWorker host inetPton 0 ticks).length →
        n / 2 ≤ (packetsTo id
          (((runWorker host inetPton 0 ticks).drop first).take n)).length)
      ↔ NeverTwoOdd 0 (ticks.map fun tick => tick.elapsedTicks.toNat) := by
    have hchain := due_isChain_iff host inetPton ticks 0
    rw [List.isChain_cons, isChain_iff_windows] at hchain
    rw [← UInt64.toNat_zero, ← hchain]
    have hwindow : ∀ first n, (packetsTo id
          (((runWorker host inetPton 0 ticks).drop first).take n)).length
        = (((due (runWorker host inetPton 0 ticks)).drop first).take n).count
            true := by
      intro first n
      rw [hcount _ ((List.take_prefix n _).isInfix.trans
        (List.drop_suffix first _).isInfix)]
      simp only [due, List.map_take, List.map_drop]
    simp only [hwindow, due, List.length_map]
    exact ⟨fun h => ⟨fun _ _ => Or.inl rfl, h⟩, And.right⟩
  have hapart : (packetsTo id (runWorker host inetPton 0 ticks)).Pairwise
      fun a b => 2 ≤ b.toNat - a.toNat ∨ 2 ≤ a.toNat - b.toNat := by
    rw [hpackets _ (List.infix_refl _)]
    have hincreasing := (List.pairwise_cons.mp (runWorker_increasing host
      inetPton ticks 0 hpos (by simpa using hfits))).2
    refine (hincreasing.filter _).imp_of_mem fun {a b} ha hb hlt => ?_
    have ha' := (even_iff_toNat a).mp
      (of_decide_eq_true (List.mem_filter.mp ha).2)
    have hb' := (even_iff_toNat b).mp
      (of_decide_eq_true (List.mem_filter.mp hb).2)
    omega
  exact ⟨fun h => hoften.mp h.often, fun h => ⟨hapart, hoften.mpr h⟩⟩

end

/-! A 30 Hz session on the loopback address, alone on the server. -/

def loopback (ip : String) : Option UInt32 :=
  if ip = "127.0.0.1" then some 0x7F000001 else none

def loneSession : ClientSession Float32 :=
  { ClientSession.new 1 with
    state := .playing
    udpIpAddress := "127.0.0.1"
    udpPort := 5001 }

def loneTicks (elapsed : List UInt64) : List (Tick Float32) :=
  elapsed.map fun elapsedTicks =>
    { elapsedTicks
      timestamp := 0
      sessions := [loneSession]
      nodup := List.nodup_singleton _ }

theorem loneTicks_stream {elapsed : List UInt64} :
    ∀ tick ∈ loneTicks elapsed, StreamsAt30Hz loopback 1 tick := by
  intro tick h
  obtain ⟨e, -, rfl⟩ := List.mem_map.mp h
  exact ⟨loneSession, List.mem_singleton_self _, rfl, rfl, rfl,
    "127.0.0.1", 5001, by decide, by decide⟩

/-- On time, and late by one tick after an even count. -/
theorem hz30_paced_lone :
    Paced 1 (runWorker .little loopback 0 (loneTicks [1, 1, 2, 1, 3])) :=
  (hz30_paced_iff .little loneTicks_stream (by decide) (by decide)).mpr
    (by simp [NeverTwoOdd, loneTicks])

/-- Late by one tick at every iteration after the first: the count stays
odd and the session is sent nothing. -/
theorem hz30_starved :
    (∀ tick ∈ loneTicks [1, 2, 2, 2], StreamsAt30Hz loopback 1 tick)
      ∧ (∀ tick ∈ loneTicks [1, 2, 2, 2], 1 ≤ tick.elapsedTicks.toNat)
      ∧ packetsTo 1 (runWorker .little loopback 0 (loneTicks [1, 2, 2, 2])) = []
      ∧ ¬ Paced 1 (runWorker .little loopback 0 (loneTicks [1, 2, 2, 2])) := by
  have hnone : packetsTo 1 ((runWorker .little loopback 0
      (loneTicks [1, 2, 2, 2]))) = [] := by decide +kernel
  refine ⟨loneTicks_stream, by decide, hnone, fun h => ?_⟩
  have hhalf := h.often 0 4 (by decide)
  rw [List.drop_zero, List.take_of_length_le (by decide), hnone] at hhalf
  exact absurd hhalf (by decide)

end NetworkControl
