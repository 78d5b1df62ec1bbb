import Mathlib.Algebra.Order.BigOperators.Group.List
import Mathlib.Tactic.Linarith
import NetworkControl.MetricsRuns

/-!
# Elapsed time without the pauses

`ElapsedSeconds` counts from the first packet since the last `Reset`, and
leaves out the time between an `OnPause` and the next `OnPlay`. The
collector keeps one sum and one open pause for it, with guards against
repeated calls and early pauses; the specification keeps every pause there
ever was (`Pauses`) and takes what of it lies behind the first packet.

The two agree as long as no packet is recorded during a pause, which
`UdpReceiver` sees to.
-/

namespace NetworkControl

namespace MetricsCollector

/-! ## The specification -/

/-- The stretches from an `OnPause` to the next `OnPlay`, and the begin of
the one that is not over. -/
structure Pauses where
  closed : List (TimePoint × TimePoint) := []
  since : Option TimePoint := none

/-- A second `OnPause` begins nothing, a second `OnPlay` ends nothing. -/
def Pauses.next (p : Pauses) : Operation → Pauses
  | .call (.onPause now) => { p with since := p.since.or (some now) }
  | .call (.onPlay now) =>
      { closed := p.closed ++ p.since.toList.map fun start => (start, now)
        since := none }
  | _ => p

def pauses (operations : List Operation) : Pauses :=
  operations.foldl Pauses.next {}

/-- How much of the time from `first` to `now` lies between `start` and
`stop`. -/
def overlap (first now start stop : TimePoint) : ℚ :=
  max 0 (min stop now - max start first)

/-- How much of the time from `first` to `now` was paused. -/
def Pauses.length (p : Pauses) (first now : TimePoint) : ℚ :=
  (p.closed.map fun pause => overlap first now pause.1 pause.2).sum
    + p.since.elim 0 fun start => overlap first now start now

/-- The first packet after a `Reset` is the one that counts. -/
def firstAfter (first : Option TimePoint) : Operation → Option TimePoint
  | .reset => none
  | .call (.onPacketReceived receivedTime _ _ _) =>
      first.or (some receivedTime)
  | _ => first

/-- The time of the first packet since the last `Reset`. -/
def firstArrival (operations : List Operation) : Option TimePoint :=
  operations.foldl firstAfter none

/-- The time from the first packet to `now`, less what of it was paused. -/
def unpausedTime (operations : List Operation) (now : TimePoint) : ℚ :=
  (firstArrival operations).elim 0 fun first =>
    now - first - (pauses operations).length first now

/-- No packet is recorded between an `OnPause` and the next `OnPlay`. -/
def QuietPauses (operations : List Operation) : Prop :=
  ∀ earlier op, earlier ++ [op] <+: operations → op.sequenceId?.isSome →
    (pauses earlier).since = none

theorem pauses_concat (operations : List Operation) (op : Operation) :
    pauses (operations ++ [op]) = (pauses operations).next op :=
  List.foldl_concat ..

theorem firstArrival_concat (operations : List Operation) (op : Operation) :
    firstArrival (operations ++ [op])
      = firstAfter (firstArrival operations) op :=
  List.foldl_concat ..

theorem QuietPauses.of_concat {operations : List Operation} {op : Operation}
    (h : QuietPauses (operations ++ [op])) :
    QuietPauses operations ∧ (op.sequenceId?.isSome →
      (pauses operations).since = none) :=
  ⟨fun earlier op' hbegins =>
      h earlier op' (hbegins.trans (List.prefix_append _ _)),
    h operations op (List.prefix_refl _)⟩

theorem quietPauses_iff (operations : List Operation) :
    QuietPauses operations ↔ ∀ i (h : i < operations.length),
      (operations[i].sequenceId?).isSome →
        (pauses (operations.take i)).since = none := by
  constructor
  · intro h i hi
    refine h _ _ ?_
    rw [List.take_concat_get' operations i hi]
    exact List.take_prefix _ _
  · rintro h earlier op ⟨later, rfl⟩ hop
    have hlt : earlier.length < (earlier ++ [op] ++ later).length := by simp
    have hearlier := h earlier.length hlt
    simp only [List.append_assoc, List.take_left', List.singleton_append,
      List.getElem_append_right le_rfl, Nat.sub_self,
      List.getElem_cons_zero] at hearlier
    exact hearlier hop

instance (operations : List Operation) :
    Decidable (QuietPauses operations) :=
  decidable_of_iff' _ (quietPauses_iff operations)

/-! ## The part of the collector that keeps the time -/

structure Stopwatch where
  hasReceivedPacket : Bool
  statsStartTime : TimePoint
  isPaused : Bool
  pauseStartTime : TimePoint
  accumulatedPausedSeconds : ℚ

section

variable (m : MetricsCollector) (now receivedTime : TimePoint)
  (nowMicroseconds sequenceId sendTimestamp : Nat)

def stopwatch : Stopwatch where
  hasReceivedPacket := m.hasReceivedPacket
  statsStartTime := m.statsStartTime
  isPaused := m.isPaused
  pauseStartTime := m.pauseStartTime
  accumulatedPausedSeconds := m.accumulatedPausedSeconds

theorem countReceived_stopwatch :
    (m.countReceived nowMicroseconds sendTimestamp).stopwatch
      = m.stopwatch := by
  rw [countReceived, recordLatency]
  split <;> rfl

theorem recordReceiveInterval_stopwatch :
    (m.recordReceiveInterval receivedTime sequenceId).stopwatch
      = m.stopwatch := by
  simp only [recordReceiveInterval]
  split_ifs <;> rfl

theorem expireStale_stopwatch :
    (m.expireStaleMissingSequenceIds sequenceId).stopwatch = m.stopwatch := by
  unfold expireStaleMissingSequenceIds
  split <;> rfl

/-- The first packet starts it; no other changes it. -/
theorem onPacketReceived_stopwatch :
    (m.onPacketReceived receivedTime nowMicroseconds sequenceId
        sendTimestamp).stopwatch
      = if m.hasReceivedPacket then m.stopwatch
        else { m.stopwatch with
          hasReceivedPacket := true
          statsStartTime := receivedTime } := by
  have hcount := m.countReceived_stopwatch nowMicroseconds sendTimestamp
  unfold onPacketReceived
  dsimp only
  generalize m.countReceived nowMicroseconds sendTimestamp = n at hcount ⊢
  have hreceived : n.hasReceivedPacket = m.hasReceivedPacket :=
    congrArg Stopwatch.hasReceivedPacket hcount
  rw [← hcount, ← hreceived]
  by_cases h : n.hasReceivedPacket = true
  · rw [if_pos h]
    split
    · rename_i hnot
      rw [h] at hnot
      cases hnot
    · split
      · rw [expireStale_stopwatch]
        exact recordReceiveInterval_stopwatch _ _ _
      · split <;> rfl
  · rw [if_neg h]
    split
    · rfl
    · rename_i hnot
      exact absurd (by simpa using hnot) h

theorem onPause_stopwatch :
    (m.onPause now).stopwatch
      = if m.hasReceivedPacket && !m.isPaused then
          { m.stopwatch with pauseStartTime := now, isPaused := true }
        else m.stopwatch := by
  unfold onPause
  split <;> rfl

theorem onPlay_stopwatch :
    (m.onPlay now).stopwatch
      = if m.isPaused then
          { m.stopwatch with
            accumulatedPausedSeconds :=
              m.accumulatedPausedSeconds + (now - m.pauseStartTime)
            isPaused := false }
        else m.stopwatch := by
  unfold onPlay
  split <;> rfl

end

/-- What the stopwatch shows at `now`. -/
def Stopwatch.elapsed (w : Stopwatch) (now : TimePoint) : ℚ :=
  if w.hasReceivedPacket then
    now - w.statsStartTime - (w.accumulatedPausedSeconds
      + if w.isPaused then now - w.pauseStartTime else 0)
  else 0

theorem getSnapshot_elapsedSeconds (m : MetricsCollector) (now : TimePoint) :
    (m.getSnapshot now).elapsedSeconds = m.stopwatch.elapsed now := rfl

theorem Stopwatch.elapsed_mono (w : Stopwatch) {now later : TimePoint}
    (h : now ≤ later) : w.elapsed now ≤ w.elapsed later := by
  unfold elapsed
  split
  · split <;> linarith
  · exact le_rfl

/-! ## The invariant -/

/-- What a pause that is over took from the time since `first`. -/
def lost (first : TimePoint) (pause : TimePoint × TimePoint) : ℚ :=
  max 0 (pause.2 - max pause.1 first)

theorem overlap_of_stop_le {first now start stop : TimePoint}
    (h : stop ≤ now) :
    overlap first now start stop = lost first (start, stop) := by
  rw [overlap, lost, min_eq_left h]

/-- The stopwatch `w` agrees with the first arrival and the pauses up to
the clock reading `now`. Before the first packet it stands at zero,
whatever pauses there were. -/
structure Keeps (w : Stopwatch) (first : Option TimePoint) (p : Pauses)
    (now : TimePoint) : Prop where
  hasReceived : w.hasReceivedPacket = first.isSome
  closed_le : ∀ pause ∈ p.closed, pause.2 ≤ now
  since_le : ∀ start ∈ p.since, start ≤ now
  idle : first = none → w.isPaused = false ∧ w.accumulatedPausedSeconds = 0
  start : ∀ t ∈ first, w.statsStartTime = t ∧ t ≤ now
  isPaused : first.isSome → w.isPaused = p.since.isSome
  pauseStart : ∀ t ∈ first, ∀ start ∈ p.since,
    w.pauseStartTime = start ∧ t ≤ start
  accumulated : ∀ t ∈ first,
    w.accumulatedPausedSeconds = (p.closed.map (lost t)).sum

theorem Keeps.mono {w : Stopwatch} {first : Option TimePoint} {p : Pauses}
    {now later : TimePoint} (h : Keeps w first p now) (hle : now ≤ later) :
    Keeps w first p later :=
  { h with
    closed_le := fun pause hpause => (h.closed_le pause hpause).trans hle
    since_le := fun start hstart => (h.since_le start hstart).trans hle
    start := fun t ht => ⟨(h.start t ht).1, (h.start t ht).2.trans hle⟩ }

/-- The pauses before the first packet took nothing. -/
theorem sum_lost_eq_zero {closed : List (TimePoint × TimePoint)}
    {first : TimePoint} (h : ∀ pause ∈ closed, pause.2 ≤ first) :
    (closed.map (lost first)).sum = 0 := by
  refine List.sum_eq_zero fun x hx => ?_
  obtain ⟨pause, hpause, rfl⟩ := List.mem_map.mp hx
  have hstop : pause.2 ≤ max pause.1 first :=
    (h pause hpause).trans (le_max_right _ _)
  rw [lost, max_eq_left (sub_nonpos.mpr hstop)]

section

variable {m : MetricsCollector} {first : Option TimePoint} {p : Pauses}
  {time : TimePoint}

theorem Keeps.onPacketReceived (h : Keeps m.stopwatch first p time)
    (hquiet : p.since = none) (nowMicroseconds id sendTimestamp : Nat) :
    Keeps (m.onPacketReceived time nowMicroseconds id sendTimestamp).stopwatch
      (first.or (some time)) p time := by
  rw [onPacketReceived_stopwatch]
  cases first with
  | some t =>
      have hreceived : m.hasReceivedPacket = true := h.hasReceived
      rw [if_pos hreceived]
      exact h
  | none =>
      have hreceived : ¬ m.hasReceivedPacket = true := by
        rw [show m.hasReceivedPacket = false from h.hasReceived]
        exact Bool.false_ne_true
      obtain ⟨hpaused, hacc⟩ := h.idle rfl
      rw [if_neg hreceived]
      refine
        { h with
          hasReceived := rfl
          idle := fun hnone => nomatch hnone
          start := ?_, isPaused := ?_, pauseStart := ?_, accumulated := ?_ }
      · rintro t ⟨⟩
        exact ⟨rfl, le_rfl⟩
      · intro _
        rw [hquiet]
        exact hpaused
      · rw [hquiet]
        rintro t _ start ⟨⟩
      · rintro t ⟨⟩
        exact hacc.trans (sum_lost_eq_zero h.closed_le).symm

theorem Keeps.onPause (h : Keeps m.stopwatch first p time) :
    Keeps (m.onPause time).stopwatch first
      { p with since := p.since.or (some time) } time := by
  have hsince : ∀ start ∈ p.since.or (some time), start ≤ time := by
    intro start hstart
    cases hp : p.since with
    | none =>
        rw [hp] at hstart
        exact (Option.some.inj hstart).ge
    | some start' =>
        rw [hp] at hstart
        exact h.since_le start (hp.trans hstart)
  rw [onPause_stopwatch]
  cases first with
  | none =>
      have hreceived : m.hasReceivedPacket = false := h.hasReceived
      rw [hreceived, Bool.false_and, if_neg Bool.false_ne_true]
      exact
        { h with
          since_le := hsince
          isPaused := fun hsome => nomatch hsome
          pauseStart := fun _ ht => nomatch ht }
  | some t =>
      have hreceived : m.hasReceivedPacket = true := h.hasReceived
      have hpaused : m.isPaused = p.since.isSome := h.isPaused rfl
      cases hp : p.since with
      | some start =>
          rw [hp] at hpaused
          rw [hreceived, hpaused]
          exact { h with
            since_le := by rwa [hp] at hsince
            isPaused := fun _ => hpaused
            pauseStart := fun t' ht start' hstart =>
              h.pauseStart t' ht start' (hp.trans hstart) }
      | none =>
          rw [hp] at hpaused
          rw [hreceived, hpaused]
          refine { h with
            since_le := by rwa [hp] at hsince
            idle := fun hnone => nomatch hnone
            isPaused := fun _ => rfl
            pauseStart := ?_ }
          rintro t' ht start' ⟨⟩
          exact ⟨rfl, (h.start t' ht).2⟩

theorem Keeps.onPlay (h : Keeps m.stopwatch first p time) :
    Keeps (m.onPlay time).stopwatch first
      { closed := p.closed ++ p.since.toList.map fun start => (start, time)
        since := none } time := by
  have hclosed : ∀ pause ∈ p.closed
      ++ p.since.toList.map fun start => (start, time), pause.2 ≤ time := by
    intro pause hpause
    rcases List.mem_append.mp hpause with hold | hnew
    · exact h.closed_le pause hold
    · obtain ⟨start, -, rfl⟩ := List.mem_map.mp hnew
      exact le_rfl
  rw [onPlay_stopwatch]
  cases first with
  | none =>
      have hpaused : m.isPaused = false := (h.idle rfl).1
      rw [hpaused, if_neg Bool.false_ne_true]
      exact
        { h with
          closed_le := hclosed
          since_le := fun _ hstart => nomatch hstart
          isPaused := fun hsome => nomatch hsome
          pauseStart := fun _ ht => nomatch ht
          accumulated := fun _ ht => nomatch ht }
  | some t =>
      have hpaused : m.isPaused = p.since.isSome := h.isPaused rfl
      have hacc : m.accumulatedPausedSeconds = (p.closed.map (lost t)).sum :=
        h.accumulated t rfl
      cases hp : p.since with
      | none =>
          rw [hp] at hpaused
          rw [hpaused, Option.isSome_none, if_neg Bool.false_ne_true]
          refine { h with
            closed_le := by rwa [hp] at hclosed
            since_le := fun _ hstart => nomatch hstart
            isPaused := fun _ => hpaused
            pauseStart := fun _ _ _ hstart => nomatch hstart
            accumulated := ?_ }
          rintro t' ⟨⟩
          show m.accumulatedPausedSeconds = _
          simpa using hacc
      | some start =>
          rw [hp] at hpaused
          obtain ⟨hstart, hle⟩ := h.pauseStart t rfl start hp
          have hlost : lost t (start, time) = time - start := by
            rw [lost, max_eq_left hle]
            exact max_eq_right (sub_nonneg.mpr (h.since_le start hp))
          rw [hpaused, if_pos Option.isSome_some]
          refine { h with
            closed_le := by rwa [hp] at hclosed
            since_le := fun _ hstart => nomatch hstart
            idle := fun hnone => nomatch hnone
            isPaused := fun _ => rfl
            pauseStart := fun _ _ _ hstart => nomatch hstart
            accumulated := ?_ }
          rintro t' ⟨⟩
          rw [show m.pauseStartTime = start from hstart, hacc]
          simp [hlost]

theorem Keeps.reset (h : Keeps m.stopwatch first p time) :
    Keeps m.reset.stopwatch none p time :=
  { h with
    hasReceived := rfl
    idle := fun _ => ⟨rfl, rfl⟩
    start := fun _ ht => nomatch ht
    isPaused := fun hsome => nomatch hsome
    pauseStart := fun _ ht => nomatch ht
    accumulated := fun _ ht => nomatch ht }

/-- One operation, at the reading of the clock it takes. -/
theorem Keeps.step {op : Operation} (h : Keeps m.stopwatch first p time)
    (htime : ∀ t ∈ op.time?, t = time)
    (hquiet : op.sequenceId?.isSome → p.since = none) :
    Keeps (op.apply m).stopwatch (firstAfter first op) (p.next op) time := by
  cases op with
  | getSnapshot now => exact h
  | reset => exact h.reset
  | call c =>
      cases c with
      | setExpectedDataRate rate => exact h
      | onPacketReceived receivedTime nowMicroseconds id sendTimestamp =>
          obtain rfl : receivedTime = time := htime _ rfl
          exact h.onPacketReceived (hquiet rfl) nowMicroseconds id
            sendTimestamp
      | onPlay now =>
          obtain rfl : now = time := htime _ rfl
          exact h.onPlay
      | onPause now =>
          obtain rfl : now = time := htime _ rfl
          exact h.onPause

/-- An operation other than `Reset` does not move the hand. -/
theorem Keeps.elapsed_step {op : Operation}
    (h : Keeps m.stopwatch first p time) (htime : ∀ t ∈ op.time?, t = time)
    (hop : op ≠ .reset) :
    (op.apply m).stopwatch.elapsed time = m.stopwatch.elapsed time := by
  cases op with
  | getSnapshot now => rfl
  | reset => exact absurd rfl hop
  | call c =>
      cases c with
      | setExpectedDataRate rate => rfl
      | onPacketReceived receivedTime nowMicroseconds id sendTimestamp =>
          obtain rfl : receivedTime = time := htime _ rfl
          show (m.onPacketReceived _ _ _ _).stopwatch.elapsed _ = _
          rw [onPacketReceived_stopwatch]
          split
          · rfl
          · rename_i hnot
            have hreceived : m.stopwatch.hasReceivedPacket = false :=
              Bool.eq_false_of_not_eq_true hnot
            have hfirst : first = none := by
              rw [← Option.not_isSome_iff_eq_none, ← h.hasReceived]
              exact hnot
            obtain ⟨hpaused, hacc⟩ := h.idle hfirst
            simp [Stopwatch.elapsed, hreceived, hpaused, hacc]
      | onPlay now =>
          obtain rfl : now = time := htime _ rfl
          show (m.onPlay _).stopwatch.elapsed _ = _
          rw [onPlay_stopwatch]
          split
          · rename_i hpaused
            simp [Stopwatch.elapsed, stopwatch, hpaused]
          · rfl
      | onPause now =>
          obtain rfl : now = time := htime _ rfl
          show (m.onPause _).stopwatch.elapsed _ = _
          rw [onPause_stopwatch]
          split
          · rename_i hstart
            obtain ⟨-, hpaused⟩ := Bool.and_eq_true_iff.mp hstart
            simp [Stopwatch.elapsed, stopwatch,
              show m.isPaused = false by simpa using hpaused]
          · rfl

theorem Keeps.elapsed (h : Keeps m.stopwatch first p time) :
    m.stopwatch.elapsed time
      = first.elim 0 fun t => time - t - p.length t time := by
  unfold Stopwatch.elapsed
  cases first with
  | none =>
      rw [h.hasReceived, Option.isSome_none, if_neg Bool.false_ne_true]
      rfl
  | some t =>
      have hclosed : p.closed.map (fun pause => overlap t time pause.1 pause.2)
          = p.closed.map (lost t) :=
        List.map_congr_left fun pause hpause =>
          overlap_of_stop_le (h.closed_le pause hpause)
      have hopen : (if m.stopwatch.isPaused then
            time - m.stopwatch.pauseStartTime else 0)
          = p.since.elim 0 fun start => overlap t time start time := by
        rw [h.isPaused rfl]
        cases hp : p.since with
        | none => rfl
        | some start =>
            obtain ⟨hstart, hle⟩ := h.pauseStart t rfl start hp
            have hnow : start ≤ time := h.since_le start hp
            rw [hstart, Option.elim_some, overlap_of_stop_le le_rfl, lost,
              max_eq_left hle, max_eq_right (sub_nonneg.mpr hnow)]
            rfl
      rw [h.hasReceived, Option.isSome_some, if_pos rfl, hopen,
        h.accumulated t rfl, (h.start t rfl).1, Option.elim_some,
        Pauses.length, hclosed]

end

/-! ## Runs -/

theorem run_keeps (operations : List Operation) :
    ∀ now, ClockForward operations now → QuietPauses operations →
      Keeps (run operations).stopwatch (firstArrival operations)
        (pauses operations) now := by
  induction operations using List.reverseRecOn with
  | nil =>
      intro now _ _
      exact
        { hasReceived := rfl
          closed_le := fun _ hpause => nomatch hpause
          since_le := fun _ hstart => nomatch hstart
          idle := fun _ => ⟨rfl, rfl⟩
          start := fun _ ht => nomatch ht
          isPaused := fun hsome => nomatch hsome
          pauseStart := fun _ ht => nomatch ht
          accumulated := fun _ ht => nomatch ht }
  | append_singleton operations op ih =>
      intro now hclock hquiet
      obtain ⟨t, hpast, hle, htime⟩ := hclock.of_concat
      obtain ⟨hbefore, hop⟩ := hquiet.of_concat
      rw [run_concat, firstArrival_concat, pauses_concat]
      exact ((ih t hpast hbefore).step htime hop).mono hle

theorem run_elapsed_nonneg (operations : List Operation) :
    ∀ now, ClockForward operations now → QuietPauses operations →
      0 ≤ (run operations).stopwatch.elapsed now := by
  induction operations using List.reverseRecOn with
  | nil => exact fun _ _ _ => le_rfl
  | append_singleton operations op ih =>
      intro now hclock hquiet
      obtain ⟨t, hpast, hle, htime⟩ := hclock.of_concat
      have hbefore : QuietPauses operations := hquiet.of_concat.1
      rw [run_concat]
      by_cases hop : op = .reset
      · rw [hop]
        exact le_rfl
      · calc (0 : ℚ) ≤ (run operations).stopwatch.elapsed t :=
              ih t hpast hbefore
          _ = (op.apply (run operations)).stopwatch.elapsed t :=
              ((run_keeps operations t hpast hbefore).elapsed_step htime
                hop).symm
          _ ≤ (op.apply (run operations)).stopwatch.elapsed now :=
              Stopwatch.elapsed_mono _ hle

/-- Between two resets the time only grows. -/
theorem run_elapsed_mono (earlier : List Operation) (t : TimePoint)
    (more : List Operation) (hreset : Operation.reset ∉ more) :
    ∀ now, ClockForward (earlier ++ .getSnapshot t :: more) now →
      QuietPauses (earlier ++ .getSnapshot t :: more) →
      (run earlier).stopwatch.elapsed t
        ≤ (run (earlier ++ .getSnapshot t :: more)).stopwatch.elapsed now := by
  induction more using List.reverseRecOn with
  | nil =>
      intro now hclock _
      obtain ⟨t', -, hle, htime⟩ := hclock.of_concat
      obtain rfl : t = t' := htime t rfl
      rw [run_concat]
      exact Stopwatch.elapsed_mono _ hle
  | append_singleton more op ih =>
      intro now hclock hquiet
      have hsplit : earlier ++ .getSnapshot t :: (more ++ [op])
          = (earlier ++ .getSnapshot t :: more) ++ [op] := by simp
      rw [hsplit] at hclock hquiet ⊢
      obtain ⟨t', hpast, hle, htime⟩ := hclock.of_concat
      have hbefore : QuietPauses (earlier ++ .getSnapshot t :: more) :=
        hquiet.of_concat.1
      have hmore : Operation.reset ∉ more := fun hmem =>
        hreset (List.mem_append_left _ hmem)
      have hop : op ≠ .reset := by
        rintro rfl
        exact hreset (List.mem_append_right _ (List.mem_singleton_self _))
      rw [run_concat]
      calc (run earlier).stopwatch.elapsed t
          ≤ (run (earlier ++ .getSnapshot t :: more)).stopwatch.elapsed t' :=
            ih hmore t' hpast hbefore
        _ = (op.apply (run (earlier ++ .getSnapshot t :: more))).stopwatch.elapsed
              t' :=
            ((run_keeps _ t' hpast hbefore).elapsed_step htime hop).symm
        _ ≤ _ := Stopwatch.elapsed_mono _ hle

/-- `ElapsedSeconds` is the time since the first packet that was not
paused. It is never negative, and from one snapshot to the next it does not
go back unless there was a `Reset`. -/
theorem elapsedSeconds_eq_unpausedTime (operations : List Operation)
    (now : TimePoint) (hclock : ClockForward operations now)
    (hquiet : QuietPauses operations) :
    ((run operations).getSnapshot now).elapsedSeconds
        = unpausedTime operations now
      ∧ 0 ≤ ((run operations).getSnapshot now).elapsedSeconds
      ∧ ∀ earlier t more, operations = earlier ++ .getSnapshot t :: more →
          Operation.reset ∉ more →
          ((run earlier).getSnapshot t).elapsedSeconds
            ≤ ((run operations).getSnapshot now).elapsedSeconds := by
  simp only [getSnapshot_elapsedSeconds]
  refine ⟨(run_keeps operations now hclock hquiet).elapsed,
    run_elapsed_nonneg operations now hclock hquiet, ?_⟩
  rintro earlier t more rfl hreset
  exact run_elapsed_mono earlier t more hreset now hclock hquiet

/-- Pauses before the first packet, repeated ones, and a `Reset` in the
middle of one: from the packet at 14 to the snapshot at 19 three seconds
were paused. -/
theorem elapsedSeconds_eq_unpausedTime_reset :
    ((run [.call (.onPause 1), .call (.onPlay 3),
        .call (.onPacketReceived 4 0 7 0), .call (.onPause 5),
        .call (.onPause 6), .reset, .call (.onPause 7), .call (.onPlay 13),
        .call (.onPacketReceived 14 0 9 0), .call (.onPause 15),
        .call (.onPause 16), .call (.onPlay 18), .call (.onPlay 18)]).getSnapshot
        19).elapsedSeconds = 2 :=
  (elapsedSeconds_eq_unpausedTime _ 19 (by decide) (by decide)).1.trans
    (by norm_num [unpausedTime, firstArrival, firstAfter, pauses,
      Pauses.next, Pauses.length, overlap])

end MetricsCollector

end NetworkControl
