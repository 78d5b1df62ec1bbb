import NetworkControl.ExactLoss
import NetworkControl.Link

/-!
# The measured loss is the real loss

One client and its session over a network that loses, reorders and
duplicates datagrams, while the client plays, pauses and changes the rate
as it likes. A history variable says what became of the packets that were
not recorded: `lost` by the network, or `discarded` by `ReceiveWorker`,
which reads them while `isActive_` is false or cannot decode them.

`measured_loss_real` says that `LossCount` is then exact at every moment:
the number of packets between the first and the highest received of which
no copy was recorded, and that each of them is accounted for. The client
takes a packet as lost for good when one 1000 or more above it arrives, so
the runs are those in which no packet comes later than that. Nor do the
64-bit numbers come round in them.
-/

namespace NetworkControl

open Endian

/-- `SequenceId`, as the collector gets it. -/
def Packet.id (packet : Packet) : Nat := packet.batch.sequenceId.toNat

/-- The ids of the packets the network lost and of those `ReceiveWorker`
threw away. -/
structure Thrown where
  lost : List Nat := []
  discarded : List Nat := []
deriving DecidableEq, Repr

namespace MetricsCollector

/-- Every arrival but the first was a new highest id or came in time. -/
def Timely (ids : List Nat) : Prop :=
  ∀ j ∈ ids, ids.head? = some j ∨ ¬ Lost ids j

section

variable {ids : List Nat} {id j highest first : Nat}

/-- What has not been lost stays so. -/
theorem not_lost_concat (hmax : ids.max? = some highest)
    (h : ¬ Lost ids j) : ¬ Lost (ids ++ [id]) j := by
  intro hlost
  refine h ⟨fun hraised => hlost.1 ?_, fun htime => hlost.2 ?_⟩
  · exact (raised_concat hmax).mpr (Or.inl hraised)
  · exact (inTime_concat hmax).mpr (Or.inl htime)

theorem Timely.concat (h : Timely ids)
    (hid : id ∈ ids ∨ ∀ j ∈ ids, j < id + missingSequenceWindow) :
    Timely (ids ++ [id]) := by
  intro j hj
  rcases hmax : ids.max? with _ | highest
  · obtain rfl := List.max?_eq_none_iff.mp hmax
    obtain rfl := List.mem_singleton.mp hj
    exact Or.inl rfl
  · obtain ⟨hmem, hle⟩ := List.max?_eq_some_iff.mp hmax
    have hkept : j ∈ ids →
        (ids ++ [id]).head? = some j ∨ ¬ Lost (ids ++ [id]) j := by
      intro hold
      refine (h j hold).imp (fun hhead => ?_) (not_lost_concat hmax)
      rw [List.head?_append, hhead]
      rfl
    rcases List.mem_append.mp hj with hold | hnew
    · exact hkept hold
    · obtain rfl := List.mem_singleton.mp hnew
      rcases hid with hold | htime
      · exact hkept hold
      · have hhighest := htime highest hmem
        rcases Nat.lt_trichotomy highest j with hraises | heq | hbelow
        · exact Or.inr fun hlost => hlost.1
            ((raised_concat hmax).mpr (Or.inr ⟨rfl, hraises⟩))
        · exact hkept (heq ▸ hmem)
        · exact Or.inr fun hlost => hlost.2
            ((inTime_concat hmax).mpr (Or.inr ⟨rfl, hbelow, by omega⟩))

/-- Lost is then what never came. -/
theorem Timely.lost_iff (h : Timely ids) (hhead : ids.head? = some first)
    (hj : first < j) : Lost ids j ↔ j ∉ ids := by
  constructor
  · intro hlost hmem
    rcases h j hmem with heq | hnot
    · obtain rfl := Option.some.inj (hhead.symm.trans heq)
      exact absurd hj (Nat.lt_irrefl _)
    · exact hnot hlost
  · exact lost_of_notMem

/-- The loss counters after arrivals in time. -/
theorem Timely.lossCount_eq {m : MetricsCollector} {calls : List Call}
    (h : Timely (sequenceIds calls))
    (hfirst : (sequenceIds calls).head? = some first)
    (hhighest : (sequenceIds calls).max? = some highest) :
    (m.sinceReset calls).lossCount
      = ((Finset.Ioo first highest).filter fun j =>
          j ∉ sequenceIds calls).card := by
  obtain ⟨hlost, hcount⟩ := m.countedLost_eq hfirst hhighest
  rw [hcount, hlost]
  congr 1
  refine Finset.filter_congr fun j hj => ?_
  exact h.lost_iff hfirst (Finset.mem_Ioo.mp hj).1

end

end MetricsCollector

namespace Link

open MetricsCollector

section

variable {F : Type}

/-- The ids `OnPacketReceived` was called with. -/
def recordedIds (s : Link F) : List Nat := s.recorded.map (·.packet.id)

/-- What a step throws away. -/
def recordThrown (host : ByteOrder) (s : Link F) (a : LinkAction)
    (thrown : Thrown) : Thrown :=
  match a with
  | .lose n =>
      { thrown with lost := thrown.lost ++ s.flight[n]?.toList.map (·.id) }
  | .receive n =>
      { thrown with
        discarded := thrown.discarded
          ++ (s.flight[n]?.toList.filter (!deliverable host ·)).map (·.id) }
  | .test =>
      { thrown with
        discarded := thrown.discarded
          ++ if s.receiver.isActive then [] else s.worker.hand.map (·.id) }
  | _ => thrown

/-- No `Stop` and no `Reset`, the numbers do not come round, and no packet
is first recorded after one `missingSequenceWindow` or more above it. -/
def Measuring (x : Link F × Thrown) : LinkAction → Prop
  | .command command => command ≠ .stop ∧ command ≠ .reset
  | .number _ _ => x.1.sequence.toNat + 1 < 2 ^ 64
  | .record _ => ∀ packet ∈ x.1.worker.hand, packet.id ∈ x.1.recordedIds
      ∨ ∀ j ∈ x.1.recordedIds, j < packet.id + missingSequenceWindow
  | _ => True

instance (x : Link F × Thrown) : (a : LinkAction) → Decidable (Measuring x a)
  | .command _ => inferInstanceAs (Decidable (_ ∧ _))
  | .number _ _ => inferInstanceAs (Decidable (_ < _))
  | .record _ => inferInstanceAs (Decidable (∀ packet ∈ _, _ ∨ _))
  | .commandStep _ | .receive _ | .test | .lose _ | .duplicate _
  | .serverProcess | .select | .sendPacket => .isTrue trivial

/-! ## The invariant -/

/-- The statistics come from the recorded packets alone, and every packet
numbered is recorded, on its way or thrown away; one that is not sent yet
is the last of them. -/
structure Accounts (s : Link F) (thrown : Thrown) : Prop where
  command : ∀ command n, s.progress = some (command, n) →
    command ≠ .stop ∧ command ≠ .reset
  channel : ∀ m ∈ s.channel, m ≠ .reset ∧ m.isStop = false
  collector : ∃ calls,
    s.receiver.metricsCollector = MetricsCollector.sinceReset {} calls
      ∧ sequenceIds calls = s.recordedIds
  timely : Timely s.recordedIds
  sent : ∀ j ∈ s.recordedIds, j ≤ s.sequence.toNat
  numbered : ∀ packet ∈ s.outstanding, packet.id ≤ s.sequence.toNat
  last : ∀ packet ∈ s.sender.pending, (∀ j ∈ s.recordedIds, j < packet.id)
    ∧ ∀ p ∈ s.underWay, p.id < packet.id
  known : ∀ j, 0 < j → j ≤ s.sequence.toNat → j ∈ s.recordedIds
    ∨ j ∈ s.outstanding.map (·.id) ∨ j ∈ thrown.lost ∨ j ∈ thrown.discarded

variable {s t : Link F} {thrown thrown' : Thrown}

/-- Packets change hands, and some are thrown away. -/
theorem Accounts.moved (hs : s.Accounts thrown) {worker : WorkerPc}
    {flight : List Packet}
    (hnew : ∀ p ∈ worker.hand ++ flight, p ∈ s.underWay)
    (hold : ∀ p ∈ s.underWay, p ∈ worker.hand ++ flight
      ∨ p.id ∈ thrown'.lost ∨ p.id ∈ thrown'.discarded)
    (hlost : thrown.lost ⊆ thrown'.lost)
    (hdiscarded : thrown.discarded ⊆ thrown'.discarded) :
    Accounts { s with worker, flight } thrown' := by
  refine ⟨hs.command, hs.channel, hs.collector, hs.timely, hs.sent,
    fun p hp => ?_, fun packet hpacket => ⟨(hs.last packet hpacket).1,
      fun p hp => (hs.last packet hpacket).2 p (hnew p hp)⟩,
    fun j hpos hle => ?_⟩
  · rcases List.mem_append.mp hp with hway | hpending
    · exact hs.numbered p (List.mem_append_left _ (hnew p hway))
    · exact hs.numbered p (List.mem_append_right _ hpending)
  rcases hs.known j hpos hle with hrecorded | hout | hthrown | hthrown
  · exact Or.inl hrecorded
  · obtain ⟨p, hp, rfl⟩ := List.mem_map.mp hout
    rcases List.mem_append.mp hp with hway | hpending
    · rcases hold p hway with hstill | hnow
      · exact Or.inr (Or.inl (List.mem_map_of_mem
          (List.mem_append_left _ hstill)))
      · exact Or.inr (Or.inr hnow)
    · exact Or.inr (Or.inl (List.mem_map_of_mem
        (List.mem_append_right _ hpending)))
  · exact Or.inr (Or.inr (Or.inl (hlost hthrown)))
  · exact Or.inr (Or.inr (Or.inr (hdiscarded hthrown)))

/-- Nothing but `Reset` touches the statistics otherwise than a `Call`
without a packet. -/
theorem runStep_collector (encodeDouble : ℚ → DoubleBits) (command : Command)
    (now : TimePoint) {step : ClientStep} (hclear : step ≠ .clear) :
    ∃ calls, sequenceIds calls = []
      ∧ (s.runStep encodeDouble command now step).receiver.metricsCollector
        = calls.foldl Call.apply s.receiver.metricsCollector := by
  cases step with
  | setActive active => exact ⟨[], rfl, rfl⟩
  | send => exact ⟨[], rfl, rfl⟩
  | collectorPlay => exact ⟨[.onPlay now], rfl, rfl⟩
  | collectorPause => exact ⟨[.onPause now], rfl, rfl⟩
  | clear => exact absurd rfl hclear
  | setExpectedDataRate dataRate =>
      exact ⟨[.setExpectedDataRate dataRate], rfl, rfl⟩

theorem sinceReset_append (m : MetricsCollector)
    (calls more : List MetricsCollector.Call) :
    m.sinceReset (calls ++ more)
      = more.foldl Call.apply (m.sinceReset calls) := List.foldl_append

theorem accounts_commandStep {encodeDouble : ℚ → DoubleBits}
    {command : Command} {n : Nat} {now : TimePoint} {step : ClientStep}
    (hs : s.Accounts thrown) (hprogress : s.progress = some (command, n))
    (hstep : command.steps[n]? = some step) :
    Accounts { s.runStep encodeDouble command now step with
      progress := advance command n } thrown := by
  have hcommand := hs.command command n hprogress
  have hclear : step ≠ .clear := by
    rintro rfl
    rcases Command.clear_step hstep with ⟨rfl, -⟩ | ⟨rfl, -⟩
    · exact hcommand.2 rfl
    · exact hcommand.1 rfl
  have hrecorded : recordedIds { s.runStep encodeDouble command now step with
      progress := advance command n } = s.recordedIds := by
    simp [recordedIds]
  have hway : underWay { s.runStep encodeDouble command now step with
      progress := advance command n } = s.underWay := by
    simp [underWay]
  have hsender : sender { s.runStep encodeDouble command now step with
      progress := advance command n } = s.sender := by
    simp
  have hout : outstanding { s.runStep encodeDouble command now step with
      progress := advance command n } = s.outstanding := by
    rw [outstanding, hway, hsender]
    rfl
  have hsequence : sequence { s.runStep encodeDouble command now step with
      progress := advance command n } = s.sequence := by
    simp [sequence]
  refine ⟨?_, ?_, ?_, ?_, ?_, ?_, ?_, ?_⟩
  · intro c k hk
    rw [(advance_eq_some hk).1]
    exact hcommand
  · intro m hm
    by_cases hsend : step = .send
    · subst hsend
      rcases List.mem_append.mp hm with hold | hnew
      · exact hs.channel m hold
      · obtain rfl := List.mem_singleton.mp hnew
        refine ⟨fun h => ?_, ?_⟩
        · exact hcommand.2
            ((Command.message_eq_reset encodeDouble _ now command).mp h)
        · rw [Command.message_isStop]
          exact decide_eq_false hcommand.1
    · have hchannel :=
        (s.runStep_channel encodeDouble command now step hsend).1
      exact hs.channel m (hchannel ▸ hm)
  · obtain ⟨calls, hcalls, hids⟩ := hs.collector
    obtain ⟨more, hmore, hstepped⟩ :=
      s.runStep_collector encodeDouble command now hclear
    refine ⟨calls ++ more, ?_, ?_⟩
    · rw [sinceReset_append, ← hcalls]
      exact hstepped
    · rw [hrecorded, ← hids, sequenceIds, List.filterMap_append]
      exact (congrArg _ hmore).trans (List.append_nil _)
  · rw [hrecorded]
    exact hs.timely
  · rw [hrecorded, hsequence]
    exact hs.sent
  · rw [hout, hsequence]
    exact hs.numbered
  · rw [hrecorded, hway, hsender]
    exact hs.last
  · rw [hrecorded, hout, hsequence]
    exact hs.known

theorem accounts_record {clock : UdpReceiver.Clock} {packet : Packet}
    (hs : s.Accounts thrown) (hworker : s.worker = .passed packet)
    (htime : packet.id ∈ s.recordedIds
      ∨ ∀ j ∈ s.recordedIds, j < packet.id + missingSequenceWindow) :
    (s.recordPacket clock packet).Accounts thrown := by
  have hrecorded : (s.recordPacket clock packet).recordedIds
      = s.recordedIds ++ [packet.id] := by
    simp [recordedIds, recordPacket]
  have hout := s.recordPacket_outstanding clock hworker
  have hway : s.underWay
      = packet :: (s.recordPacket clock packet).underWay := by
    rw [underWay, hworker]
    rfl
  refine ⟨hs.command, hs.channel, ?_, ?_, ?_, ?_, ?_, ?_⟩
  · obtain ⟨calls, hcalls, hids⟩ := hs.collector
    refine ⟨calls ++ [.onPacketReceived clock.receivedTime
      clock.nowMicroseconds.toNat packet.id packet.batch.timestamp.toNat],
      ?_, ?_⟩
    · rw [sinceReset_append, ← hcalls]
      rfl
    · rw [sequenceIds_concat, hids, hrecorded]
      rfl
  · rw [hrecorded]
    exact hs.timely.concat htime
  · intro j hj
    rw [hrecorded] at hj
    rcases List.mem_append.mp hj with hold | hnew
    · exact hs.sent j hold
    · obtain rfl := List.mem_singleton.mp hnew
      exact hs.numbered packet (by rw [hout]; exact List.mem_cons_self)
  · intro p hp
    exact hs.numbered p (by rw [hout]; exact List.mem_cons_of_mem _ hp)
  · intro p hp
    obtain ⟨habove, hbehind⟩ := hs.last p hp
    rw [hway] at hbehind
    refine ⟨fun j hj => ?_,
      fun q hq => hbehind q (List.mem_cons_of_mem _ hq)⟩
    rw [hrecorded] at hj
    rcases List.mem_append.mp hj with hold | hnew
    · exact habove j hold
    · obtain rfl := List.mem_singleton.mp hnew
      exact hbehind packet List.mem_cons_self
  · intro j hpos hle
    have hknown := hs.known j hpos hle
    rw [hout, List.map_cons, List.mem_cons] at hknown
    rw [hrecorded, List.mem_append, List.mem_singleton]
    tauto

theorem accounts_number {timestamp : UInt64}
    {entities : List EntityStateEntry} (hs : s.Accounts thrown)
    (hselected : s.sender = .selected)
    (hroom : s.sequence.toNat + 1 < 2 ^ 64) :
    (s.number timestamp entities).Accounts thrown := by
  obtain ⟨packet, hid, -, hsender, hout⟩ :=
    s.number_outstanding timestamp entities hselected
  have hnext : (s.sequence + 1).toNat = s.sequence.toNat + 1 := by
    rw [UInt64.toNat_add]
    exact Nat.mod_eq_of_lt hroom
  have hsequence : (s.number timestamp entities).sequence
      = s.sequence + 1 := rfl
  have hpacket : packet.id = s.sequence.toNat + 1 := by
    rw [Packet.id, hid, hnext]
  refine ⟨hs.command, hs.channel, hs.collector, hs.timely, ?_, ?_, ?_, ?_⟩
  · intro j hj
    rw [hsequence, hnext]
    exact (hs.sent j hj).trans (Nat.le_succ _)
  · intro p hp
    rw [hout] at hp
    rw [hsequence, hnext]
    rcases List.mem_append.mp hp with hold | hnew
    · exact (hs.numbered p hold).trans (Nat.le_succ _)
    · obtain rfl := List.mem_singleton.mp hnew
      exact hpacket.le
  · intro p hp
    rw [hsender] at hp
    obtain rfl := List.mem_singleton.mp hp
    rw [hpacket]
    exact ⟨fun j hj => Nat.lt_succ_of_le (hs.sent j hj), fun q hq =>
      Nat.lt_succ_of_le (hs.numbered q (List.mem_append_left _ hq))⟩
  · intro j hpos hle
    rw [hsequence, hnext] at hle
    rw [hout, List.map_append, List.map_singleton, hpacket]
    rcases Nat.lt_or_ge s.sequence.toNat j with hnew | hold
    · obtain rfl : j = s.sequence.toNat + 1 := by omega
      exact Or.inr (Or.inl (by simp))
    · rcases hs.known j hpos hold with hrecorded | hway | hthrown
      · exact Or.inl hrecorded
      · exact Or.inr (Or.inl (List.mem_append_left _ hway))
      · exact Or.inr (Or.inr hthrown)

theorem accounts_sendPacket {packet : Packet} (hs : s.Accounts thrown)
    (hnumbered : s.sender = .numbered packet) :
    (s.sendPacket packet).Accounts thrown := by
  have hids : (s.sendPacket packet).outstanding.map (·.id)
      = s.outstanding.map (·.id) := by
    have hids := congrArg (List.map UInt64.toNat) (s.sendPacket_ids hnumbered)
    rwa [List.map_map, List.map_map] at hids
  refine ⟨hs.command, hs.channel, hs.collector, hs.timely, hs.sent, ?_,
    fun p hp => (by cases hp), ?_⟩
  · intro p hp
    have hid := List.mem_map_of_mem (f := Packet.id) hp
    rw [hids] at hid
    obtain ⟨q, hq, heq⟩ := List.mem_map.mp hid
    rw [← heq]
    exact hs.numbered q hq
  · rw [hids]
    exact hs.known

theorem mem_eraseIdx_or {p : Packet} {flight : List Packet} (n : Nat)
    (hp : p ∈ flight) : p ∈ flight.eraseIdx n ∨ flight[n]? = some p := by
  obtain ⟨i, hi⟩ := List.mem_iff_getElem?.mp hp
  by_cases hin : i = n
  · exact Or.inr (hin ▸ hi)
  · exact Or.inl (List.mem_eraseIdx_iff_getElem?.mpr ⟨i, hin, hi⟩)

theorem mem_underWay_of_eraseIdx {p : Packet} {n : Nat}
    (hp : p ∈ s.flight.eraseIdx n) : p ∈ s.underWay :=
  List.mem_append_right _ (List.mem_of_mem_eraseIdx hp)

variable [FloatArith F] {clientIp : String} {host : ByteOrder}
  {encodeDouble : ℚ → DoubleBits} {a : LinkAction}

theorem accounts_process {message : ClientMessage}
    {channel : List ClientMessage} (hs : s.Accounts thrown)
    (hchannel : s.channel = message :: channel) :
    (s.process clientIp message channel).Accounts thrown := by
  obtain ⟨hreset, hstop⟩ :=
    hs.channel message (by rw [hchannel]; exact List.mem_cons_self)
  have hsequence : (s.process clientIp message channel).sequence
      = s.sequence := handleMessage_nextSequenceId s.server hreset hstop
  refine ⟨hs.command, fun m hm => hs.channel m ?_, hs.collector, hs.timely,
    ?_, ?_, hs.last, ?_⟩
  · rw [hchannel]
    exact List.mem_cons_of_mem _ hm
  · rw [hsequence]
    exact hs.sent
  · rw [hsequence]
    exact hs.numbered
  · rw [hsequence]
    exact hs.known

theorem accounts_step (hs : s.Accounts thrown) (hok : Measuring (s, thrown) a)
    (h : s.step clientIp host encodeDouble a = some t) :
    t.Accounts (recordThrown host s a thrown) := by
  cases moves_of_step clientIp host encodeDouble h with
  | command hidle =>
      refine ⟨fun c n hn => ?_, hs.channel, hs.collector, hs.timely, hs.sent,
        hs.numbered, hs.last, hs.known⟩
      cases hn
      exact hok
  | commandStep hprogress hstep => exact accounts_commandStep hs hprogress hstep
  | @receive n packet hworker hpacket hdel =>
      refine hs.moved (fun p hp => ?_) (fun p hp => Or.inl ?_)
        (List.Subset.refl _) (List.subset_append_left _ _)
      · rcases List.mem_cons.mp hp with rfl | hp
        · exact List.mem_append_right _ (List.mem_of_getElem? hpacket)
        · exact mem_underWay_of_eraseIdx hp
      · rw [underWay, hworker] at hp
        rcases mem_eraseIdx_or n hp with hstill | htaken
        · exact List.mem_cons_of_mem _ hstill
        · obtain rfl := Option.some.inj (hpacket.symm.trans htaken)
          exact List.mem_cons_self
  | @drop n packet hworker hpacket hdel =>
      refine hs.moved (fun p hp => mem_underWay_of_eraseIdx hp)
        (fun p hp => ?_) (List.Subset.refl _) (List.subset_append_left _ _)
      rw [underWay, hworker] at hp
      rcases mem_eraseIdx_or n hp with hstill | htaken
      · exact Or.inl hstill
      · refine Or.inr (Or.inr (List.mem_append_right _ ?_))
        obtain rfl := Option.some.inj (hpacket.symm.trans htaken)
        simp [hpacket, hdel]
  | @pass packet hworker hactive =>
      refine hs.moved (fun p hp => ?_) (fun p hp => Or.inl ?_)
        (List.Subset.refl _) (List.subset_append_left _ _)
      · rw [underWay, hworker]
        exact hp
      · rw [underWay, hworker] at hp
        exact hp
  | @discard packet hworker hinactive =>
      refine hs.moved (fun p hp => List.mem_append_right _ hp)
        (fun p hp => ?_) (List.Subset.refl _) (List.subset_append_left _ _)
      rw [underWay, hworker] at hp
      rcases List.mem_cons.mp hp with rfl | hp
      · refine Or.inr (Or.inr (List.mem_append_right _ ?_))
        simp [hinactive, hworker, WorkerPc.hand]
      · exact Or.inl hp
  | @record clock packet hworker =>
      refine accounts_record hs hworker (hok packet ?_)
      simp [hworker, WorkerPc.hand]
  | @lose n =>
      refine hs.moved (fun p hp => ?_) (fun p hp => ?_)
        (List.subset_append_left _ _) (List.Subset.refl _)
      · rcases List.mem_append.mp hp with hhand | hflight
        · exact List.mem_append_left _ hhand
        · exact mem_underWay_of_eraseIdx hflight
      · rcases List.mem_append.mp hp with hhand | hflight
        · exact Or.inl (List.mem_append_left _ hhand)
        · rcases mem_eraseIdx_or n hflight with hstill | htaken
          · exact Or.inl (List.mem_append_right _ hstill)
          · refine Or.inr (Or.inl (List.mem_append_right _ ?_))
            simp [htaken]
  | @duplicate n packet hpacket =>
      refine hs.moved (fun p hp => ?_) (fun p hp => Or.inl ?_)
        (List.Subset.refl _) (List.Subset.refl _)
      · simp only [List.mem_append, List.mem_singleton] at hp
        rcases hp with hhand | hflight | rfl
        · exact List.mem_append_left _ hhand
        · exact List.mem_append_right _ hflight
        · exact List.mem_append_right _ (List.mem_of_getElem? hpacket)
      · rcases List.mem_append.mp hp with hhand | hflight
        · exact List.mem_append_left _ hhand
        · exact List.mem_append_right _ (List.mem_append_left _ hflight)
  | serverProcess hchannel => exact accounts_process hs hchannel
  | select hplaying hnone =>
      have hout : outstanding { s with sender := .selected }
          = s.outstanding := by
        rw [outstanding, outstanding, hnone]
        rfl
      refine ⟨hs.command, hs.channel, hs.collector, hs.timely, hs.sent, ?_,
        fun p hp => (by cases hp), ?_⟩
      · rw [hout]
        exact hs.numbered
      · rw [hout]
        exact hs.known
  | number hselected => exact accounts_number hs hselected hok
  | sendPacket hnumbered => exact accounts_sendPacket hs hnumbered

/-- The link with its history. -/
def measuredSystem (clientIp : String) (host : ByteOrder)
    (encodeDouble : ℚ → DoubleBits) : Lts (Link F × Thrown) LinkAction :=
  (system clientIp host encodeDouble).recording (recordThrown host) {}

theorem accounts_reachable
    (h : (measuredSystem clientIp host encodeDouble).ReachableUnder Measuring
      (s, thrown)) : s.Accounts thrown := by
  refine Lts.ReachableUnder.invariant (I := fun x => x.1.Accounts x.2) h ?_ ?_
  · rintro ⟨s, thrown⟩ ⟨⟨sessionId, port, -, hs⟩, hthrown⟩
    cases hs
    cases hthrown
    refine ⟨fun _ _ hn => (nomatch hn), fun _ hm => (nomatch hm),
      ⟨[], rfl, rfl⟩, fun _ hj => (nomatch hj), fun _ hj => (nomatch hj),
      fun _ hp => (nomatch hp), fun _ hp => (nomatch hp),
      fun j hpos hle => ?_⟩
    exact absurd (hpos.trans_le hle) (Nat.lt_irrefl _)
  · intro x a y hx hok hstep
    obtain ⟨hstep, hthrown⟩ := Lts.recording_step hstep
    rw [hthrown]
    exact accounts_step hx hok hstep

/-- At every moment of a run in which packets are lost, duplicated and
overtaken by less than the window, `LossCount` is the number of packets
between the first and the highest received of which no copy was recorded,
and each of them is lost, discarded or still under way. -/
theorem measured_loss_real
    (h : (measuredSystem clientIp host encodeDouble).ReachableUnder Measuring
      (s, thrown)) :
    s.receiver.metricsCollector.totalReceivedCount = s.recorded.length
      ∧ (s.recorded = [] → s.receiver.metricsCollector.lossCount = 0)
      ∧ ∀ first ∈ s.recordedIds.head?, ∀ highest ∈ s.recordedIds.max?,
        s.receiver.metricsCollector.lossCount
            = ((Finset.Ioo first highest).filter fun j =>
                j ∉ s.recordedIds).card
          ∧ ∀ j ∈ Finset.Ioo first highest, j ∉ s.recordedIds →
            j ∈ thrown.lost ∨ j ∈ thrown.discarded
              ∨ j ∈ s.underWay.map (·.id) := by
  have hs := accounts_reachable h
  obtain ⟨calls, hcalls, hids⟩ := hs.collector
  have htimely := hs.timely
  rw [← hids] at htimely
  refine ⟨?_, fun hnone => ?_, fun first hfirst highest hhighest => ⟨?_, ?_⟩⟩
  · rw [hcalls, sinceReset_totalReceivedCount, hids, recordedIds,
      List.length_map]
  · rw [hcalls, lossCount_eq_received, sinceReset_received, hids, recordedIds,
      hnone]
    rfl
  · rw [hcalls, ← hids]
    rw [← hids] at hfirst hhighest
    exact htimely.lossCount_eq hfirst hhighest
  · intro j hj hmissing
    obtain ⟨hgt, hlt⟩ := Finset.mem_Ioo.mp hj
    have hsent := hs.sent highest (List.max?_eq_some_iff.mp hhighest).1
    rcases hs.known j (by omega) (by omega) with hrecorded | hout | hlost
      | hdiscarded
    · exact absurd hrecorded hmissing
    · obtain ⟨p, hp, rfl⟩ := List.mem_map.mp hout
      rcases List.mem_append.mp hp with hway | hpending
      · exact Or.inr (Or.inr (List.mem_map_of_mem hway))
      · -- numbered last, so above the highest
        have habove := (hs.last p hpending).1 highest
          (List.max?_eq_some_iff.mp hhighest).1
        omega
    · exact Or.inl hlost
    · exact Or.inr (Or.inl hdiscarded)

end

/-- Of seven packets the second is lost, the fourth overtaken and the
fifth comes while the client is paused. -/
theorem measured_loss_real_three :
    ∃ (s : Link Float32) (thrown : Thrown),
      s.recordedIds = [1, 3, 7, 6, 1] ∧ thrown = ⟨[2], [5]⟩
        ∧ s.receiver.metricsCollector.lossCount
          = ((Finset.Ioo 1 7).filter fun j => j ∉ s.recordedIds).card := by
  have hinit : (measuredSystem (F := Float32) "127.0.0.1" .little
      fun _ => 0).init (loneLink, {}) := ⟨loneSystem_init, rfl⟩
  obtain ⟨⟨s, thrown⟩, hs, hp⟩ := Lts.exists_reachableUnder
    (measuredSystem (F := Float32) "127.0.0.1" .little fun _ => 0) Measuring
    hinit
    (commandRun .play ++ [.serverProcess] ++ sendRun 5
      ++ [.duplicate 0, .lose 1] ++ recordRun 2 ++ commandRun .pause
      ++ [.receive 1, .test] ++ commandRun .play ++ sendRun 2
      ++ [.receive 3, .test, .record ⟨1, 0⟩, .receive 2, .test, .record ⟨2, 0⟩,
        .receive 1, .test, .record ⟨3, 0⟩])
    (fun x => x.1.recordedIds == [1, 3, 7, 6, 1] && x.2 == ⟨[2], [5]⟩)
    (by decide +kernel)
  simp only [Bool.and_eq_true, beq_iff_eq] at hp
  obtain ⟨hids, hthrown⟩ := hp
  refine ⟨s, thrown, hids, hthrown, ?_⟩
  exact ((measured_loss_real hs).2.2 1 (by rw [hids]; rfl) 7
    (by rw [hids]; rfl)).1

end Link

end NetworkControl
