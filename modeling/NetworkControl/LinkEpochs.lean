import NetworkControl.Link

/-!
# Reset and Stop against packets on their way

Both commands clear the client's statistics and make the server number
from 1 again, at moments of their own. A packet belongs to the epoch of
the commands the server had processed when it sent it.

`reset_isolates_epochs` and `stop_isolates_epochs` say that the epochs do
not mix in the runs that avoid `ResetsKept`'s and `StopsKept`'s
exceptions: recording, or being about to record, a packet of an epoch
that the client has already cleared.
-/

namespace NetworkControl

namespace Link

section

variable {F : Type} [FloatArith F] {clientIp : String}
  {host : Endian.ByteOrder} {encodeDouble : ℚ → DoubleBits}
  {s t : Link F} {a : LinkAction}

/-! ## Reset -/

/-- The client has sent a `Reset` and not yet cleared its statistics. -/
def MidReset (s : Link F) : Prop := s.progress = some (.reset, 1)

instance (s : Link F) : Decidable s.MidReset :=
  inferInstanceAs (Decidable (_ = _))

/-- The commands of the runs below. -/
def NoStop : LinkAction → Prop
  | .command command => command ≠ .stop
  | _ => True

instance : (a : LinkAction) → Decidable (NoStop a)
  | .command _ => inferInstanceAs (Decidable (_ ≠ _))
  | .commandStep _ | .receive _ | .test | .record _ | .lose _ | .duplicate _
  | .serverProcess | .select | .number _ _ | .sendPacket => .isTrue trivial

/-- A packet is recorded only if the server had processed every `Reset`
when it numbered it, or while the next clearing is still to come; the server
does not process the last `Reset` while the client, about to clear, has
packets recorded; the numbers do not wrap. -/
def ResetsKept (s : Link F) : LinkAction → Prop
  | .record _ => ∀ packet ∈ s.worker.hand, packet.resets = s.resetsSent
      ∨ (s.MidReset ∧ s.resetsProcessed < s.resetsSent)
  | .serverProcess => s.channel.head? = some .reset →
      s.resetsProcessed + 1 = s.resetsSent → s.MidReset →
        s.receiver.metricsCollector.hasReceivedPacket = false
  | .number _ _ => s.server.session.nextSequenceId.toNat + 1 < 2 ^ 64
  | _ => True

instance (s : Link F) : (a : LinkAction) → Decidable (s.ResetsKept a)
  | .record _ => inferInstanceAs (Decidable (∀ packet ∈ s.worker.hand, _))
  | .serverProcess => inferInstanceAs (Decidable (_ → _ → _ → _))
  | .number _ _ => inferInstanceAs (Decidable (_ < _))
  | .command _ | .commandStep _ | .receive _ | .test | .lose _ | .duplicate _
  | .select | .sendPacket => .isTrue trivial

/-- Between a `Reset`'s two ends either nothing is recorded or it is
about to be cleared. -/
structure ResetEpochs (s : Link F) : Prop where
  noStop : ∀ n, s.progress ≠ some (.stop, n)
  noStopSent : ∀ m ∈ s.channel, m.isStop = false
  sent : s.resetsProcessed + s.channel.count .reset = s.resetsSent
  older : ∀ p ∈ s.outstanding, p.resets ≤ s.resetsProcessed
  numbered : ∀ p ∈ s.outstanding, p.resets = s.resetsProcessed →
    p.batch.sequenceId.toNat ≤ s.sequence.toNat
  baseline : s.received.hasReceivedPacket = true →
    (s.resetsProcessed = s.resetsSent
      ∧ s.received.highestSequenceId ≤ s.sequence.toNat)
    ∨ (s.MidReset ∧ s.resetsProcessed < s.resetsSent)

omit [FloatArith F] in
theorem ResetEpochs.settled (hs : s.ResetEpochs) (hmid : ¬ s.MidReset)
    (h : s.received.hasReceivedPacket = true) :
    s.resetsProcessed = s.resetsSent
      ∧ s.received.highestSequenceId ≤ s.sequence.toNat :=
  (hs.baseline h).resolve_right fun hright => hmid hright.1

omit [FloatArith F] in
theorem resetEpochs_send {command : Command} {n : Nat} {now : TimePoint}
    (hs : s.ResetEpochs) (hprogress : s.progress = some (command, n))
    (hstep : command.steps[n]? = some .send) :
    ResetEpochs { s.runStep encodeDouble command now .send with
      progress := advance command n } := by
  have hcommand : command ≠ .stop := fun h => hs.noStop n (by rw [hprogress, h])
  have hn : n = 0 := by
    rw [Command.send_step hstep, if_neg hcommand]
  subst hn
  have hmid : ¬ s.MidReset := by simp [MidReset, hprogress]
  have hcount : List.count ClientMessage.reset
      [command.message encodeDouble s.receiver now]
        = tally (command = .reset) := by
    rw [List.count_singleton, tally]
    simp [Command.message_eq_reset]
  refine ⟨?_, ?_, ?_, hs.older, hs.numbered, ?_⟩
  · intro k hk
    exact hcommand (advance_eq_some hk).1.symm
  · intro m hm
    rcases List.mem_append.mp hm with hold | hnew
    · exact hs.noStopSent m hold
    · obtain rfl := List.mem_singleton.mp hnew
      rw [Command.message_isStop]
      exact decide_eq_false hcommand
  · show s.resetsProcessed + List.count .reset
        (s.channel ++ [command.message encodeDouble s.receiver now])
      = s.resetsSent + tally (command = .reset)
    rw [List.count_append, hcount, ← hs.sent]
    omega
  · intro h
    obtain ⟨hproc, hhigh⟩ := hs.settled hmid h
    by_cases hreset : command = .reset
    · subst hreset
      refine Or.inr ⟨rfl, ?_⟩
      show s.resetsProcessed < s.resetsSent + 1
      omega
    · refine Or.inl ⟨?_, hhigh⟩
      show s.resetsProcessed = s.resetsSent + tally (command = .reset)
      rw [tally, if_neg hreset]
      exact hproc

omit [FloatArith F] in
theorem resetEpochs_commandStep {command : Command} {n : Nat}
    {now : TimePoint} {step : ClientStep} (hs : s.ResetEpochs)
    (hprogress : s.progress = some (command, n))
    (hstep : command.steps[n]? = some step) :
    ResetEpochs { s.runStep encodeDouble command now step with
      progress := advance command n } := by
  by_cases hsend : step = .send
  · subst hsend
    exact resetEpochs_send hs hprogress hstep
  · obtain ⟨hchannel, hsent, -⟩ :=
      s.runStep_channel encodeDouble command now step hsend
    have hcommand : command ≠ .stop :=
      fun h => hs.noStop n (by rw [hprogress, h])
    refine ⟨fun k hk => hcommand (advance_eq_some hk).1.symm, ?_, ?_, ?_, ?_,
      ?_⟩
    · simpa only [hchannel] using hs.noStopSent
    · simpa only [hchannel, hsent, runStep_resetsProcessed] using hs.sent
    · simpa only [outstanding, underWay, runStep_worker, runStep_flight,
        runStep_sender, runStep_resetsProcessed] using hs.older
    · simpa only [outstanding, underWay, runStep_worker, runStep_flight,
        runStep_sender, runStep_resetsProcessed, sequence, runStep_server]
        using hs.numbered
    · intro h
      by_cases hclear : step = .clear
      · subst hclear
        cases h
      · have hmid : ¬ s.MidReset := fun hm => by
          obtain ⟨rfl, rfl⟩ := Prod.mk.inj
            (Option.some.inj (hprogress.symm.trans hm))
          exact hclear (Option.some.inj hstep).symm
        have hsame : received { s.runStep encodeDouble command now step with
            progress := advance command n } = s.received :=
          runStep_received encodeDouble s command now step hclear
        rw [hsame] at h
        obtain ⟨hproc, hhigh⟩ := hs.settled hmid h
        refine Or.inl ⟨?_, ?_⟩
        · simpa only [runStep_resetsProcessed, hsent] using hproc
        · rw [hsame]
          simpa only [sequence, runStep_server] using hhigh

omit [FloatArith F] in
theorem resetEpochs_record {clock : UdpReceiver.Clock} {packet : Packet}
    (hs : s.ResetEpochs) (hworker : s.worker = .passed packet)
    (hok : s.ResetsKept (.record clock)) :
    (s.recordPacket clock packet).ResetEpochs := by
  have hhand : packet ∈ s.worker.hand := by
    rw [hworker]
    exact List.mem_singleton_self packet
  have hout := s.recordPacket_outstanding clock hworker
  have hheld : packet ∈ s.outstanding := by
    rw [hout]
    exact List.mem_cons_self
  have hflight : ∀ p ∈ (s.recordPacket clock packet).outstanding,
      p ∈ s.outstanding := fun p hp => by
    rw [hout]
    exact List.mem_cons_of_mem _ hp
  refine ⟨hs.noStop, hs.noStopSent, hs.sent,
    fun p hp => hs.older p (hflight p hp),
    fun p hp => hs.numbered p (hflight p hp), fun _ => ?_⟩
  rcases hok packet hhand with hnow | hmid
  · have hle := hs.older packet hheld
    have hsent := hs.sent
    have hproc : s.resetsProcessed = s.resetsSent := by omega
    have hseq := hs.numbered packet hheld (by omega)
    refine Or.inl ⟨hproc, ?_⟩
    rw [recordPacket_received]
    cases hfirst : s.received.hasReceivedPacket with
    | false =>
        rw [MetricsCollector.Received.record_first hfirst]
        exact hseq
    | true =>
        rcases hs.baseline hfirst with ⟨-, hhigh⟩ | ⟨-, hlt⟩
        · by_cases hnewer : packet.batch.sequenceId.toNat
              > s.received.highestSequenceId
          · rw [MetricsCollector.Received.record_newer hfirst hnewer]
            exact hseq
          · rw [MetricsCollector.Received.record_older hfirst
              (Nat.not_lt.mp hnewer)]
            exact hhigh
        · omega
  · exact Or.inr hmid

theorem resetEpochs_process {message : ClientMessage}
    {channel : List ClientMessage} (hs : s.ResetEpochs)
    (hchannel : s.channel = message :: channel)
    (hok : s.ResetsKept .serverProcess) :
    (s.process clientIp message channel).ResetEpochs := by
  have hsent := hs.sent
  have hstop : message.isStop = false :=
    hs.noStopSent message (by rw [hchannel]; exact List.mem_cons_self)
  have hrest : ∀ m ∈ channel, m.isStop = false := fun m hm =>
    hs.noStopSent m (by rw [hchannel]; exact List.mem_cons_of_mem _ hm)
  rw [hchannel, List.count_cons] at hsent
  by_cases hreset : message = .reset
  · subst hreset
    have hproc : (s.process clientIp .reset channel).resetsProcessed
        = s.resetsProcessed + 1 := rfl
    simp only [beq_self_eq_true, if_true] at hsent
    refine ⟨hs.noStop, hrest, ?_, ?_, ?_, ?_⟩
    · rw [hproc]
      show s.resetsProcessed + 1 + channel.count .reset = s.resetsSent
      omega
    · intro p hp
      rw [hproc]
      exact Nat.le_succ_of_le (hs.older p hp)
    · intro p hp hnow
      have hle := hs.older p hp
      rw [hproc] at hnow
      omega
    · -- something is recorded, so a clearing is still to come
      intro h
      have hmid : s.MidReset ∧ s.resetsProcessed < s.resetsSent :=
        (hs.baseline h).resolve_left fun hleft => by omega
      by_cases hlast : s.resetsProcessed + 1 = s.resetsSent
      · have hnone := hok (by rw [hchannel]; rfl) hlast hmid.1
        have hsome : s.receiver.metricsCollector.hasReceivedPacket = true := h
        rw [hnone] at hsome
        cases hsome
      · refine Or.inr ⟨hmid.1, ?_⟩
        rw [hproc]
        show s.resetsProcessed + 1 < s.resetsSent
        omega
  · have hproc : (s.process clientIp message channel).resetsProcessed
        = s.resetsProcessed := by
      show s.resetsProcessed + tally (message = .reset) = s.resetsProcessed
      rw [tally, if_neg hreset, Nat.add_zero]
    have hseq : (s.process clientIp message channel).sequence = s.sequence :=
      handleMessage_nextSequenceId s.server hreset hstop
    refine ⟨hs.noStop, hrest, ?_, ?_, ?_, ?_⟩
    · rw [hproc]
      show s.resetsProcessed + channel.count .reset = s.resetsSent
      simpa [hreset] using hsent
    · intro p hp
      rw [hproc]
      exact hs.older p hp
    · intro p hp hnow
      rw [hseq]
      exact hs.numbered p hp (hnow.trans hproc)
    · intro h
      rw [hproc, hseq]
      exact hs.baseline h

omit [FloatArith F] in
theorem resetEpochs_number {timestamp : UInt64}
    {entities : List EntityStateEntry} (hs : s.ResetEpochs)
    (hselected : s.sender = .selected)
    (hok : s.ResetsKept (.number timestamp entities)) :
    (s.number timestamp entities).ResetEpochs := by
  have hnext : (s.number timestamp entities).sequence.toNat
      = s.sequence.toNat + 1 := by
    show (s.sequence + 1).toNat = _
    rw [UInt64.toNat_add]
    exact Nat.mod_eq_of_lt hok
  obtain ⟨packet, hid, hresets, -, hout⟩ :=
    s.number_outstanding timestamp entities hselected
  refine ⟨hs.noStop, hs.noStopSent, hs.sent, ?_, ?_, ?_⟩
  · intro p hp
    rw [hout] at hp
    rcases List.mem_append.mp hp with hold | hlast
    · exact hs.older p hold
    · obtain rfl := List.mem_singleton.mp hlast
      exact hresets.le
  · intro p hp hnow
    rw [hout] at hp
    rcases List.mem_append.mp hp with hold | hlast
    · have hle := hs.numbered p hold hnow
      omega
    · obtain rfl := List.mem_singleton.mp hlast
      rw [hid]
      exact Nat.le_refl _
  · intro h
    rcases hs.baseline h with ⟨hproc, hhigh⟩ | hmid
    · refine Or.inl ⟨hproc, ?_⟩
      rw [hnext]
      exact Nat.le_succ_of_le hhigh
    · exact Or.inr hmid

omit [FloatArith F] in
/-- `SendTo` may come after a `Reset` the number came before. -/
theorem resetEpochs_sendPacket {packet : Packet} (hs : s.ResetEpochs)
    (hnumbered : s.sender = .numbered packet) :
    (s.sendPacket packet).ResetEpochs := by
  obtain ⟨hafter, hbefore⟩ := s.sendPacket_outstanding hnumbered
  have hmem : ∀ p ∈ (s.sendPacket packet).outstanding,
      ∃ q ∈ s.outstanding, p.resets = q.resets ∧ p.batch = q.batch := by
    intro p hp
    rw [hafter] at hp
    rw [hbefore]
    rcases List.mem_append.mp hp with hold | hlast
    · exact ⟨p, List.mem_append_left _ hold, rfl, rfl⟩
    · obtain rfl := List.mem_singleton.mp hlast
      exact ⟨packet, by simp, rfl, rfl⟩
  refine ⟨hs.noStop, hs.noStopSent, hs.sent, ?_, ?_, hs.baseline⟩
  · intro p hp
    obtain ⟨q, hq, hresets, -⟩ := hmem p hp
    rw [hresets]
    exact hs.older q hq
  · intro p hp hnow
    obtain ⟨q, hq, hresets, hbatch⟩ := hmem p hp
    rw [hbatch]
    exact hs.numbered q hq (hresets ▸ hnow)

theorem resetEpochs_step (hs : s.ResetEpochs) (hstop : NoStop a)
    (hok : s.ResetsKept a)
    (h : s.step clientIp host encodeDouble a = some t) : t.ResetEpochs := by
  rcases moves_cases (moves_of_step clientIp host encodeDouble h) with
    ⟨command, rfl, hidle, rfl⟩ | ⟨command, n, now, step, rfl, hprogress, hstep,
      rfl⟩ | ⟨worker, flight, hmove, rfl⟩ | ⟨clock, packet, rfl, hworker, rfl⟩
    | ⟨message, channel, rfl, hchannel, rfl⟩ | ⟨rfl, hnone, rfl⟩
    | ⟨timestamp, entities, rfl, hselected, rfl⟩ | ⟨packet, rfl, hnumbered, rfl⟩
  · have hmid : ¬ s.MidReset := by simp [MidReset, hidle]
    refine ⟨fun n hn => ?_, hs.noStopSent, hs.sent, hs.older, hs.numbered,
      fun h => Or.inl (hs.settled hmid h)⟩
    cases hn
    exact hstop rfl
  · exact resetEpochs_commandStep hs hprogress hstep
  · exact ⟨hs.noStop, hs.noStopSent, hs.sent,
      fun p hp => hs.older p (hmove.outstanding p hp),
      fun p hp => hs.numbered p (hmove.outstanding p hp), hs.baseline⟩
  · exact resetEpochs_record hs hworker hok
  · exact resetEpochs_process hs hchannel hok
  · have hmem : ∀ p ∈ outstanding { s with sender := .selected },
        p ∈ s.outstanding := by
      intro p hp
      rw [outstanding, hnone]
      exact hp
    exact ⟨hs.noStop, hs.noStopSent, hs.sent,
      fun p hp => hs.older p (hmem p hp),
      fun p hp => hs.numbered p (hmem p hp), hs.baseline⟩
  · exact resetEpochs_number hs hselected hok
  · exact resetEpochs_sendPacket hs hnumbered

/-- In the runs that keep to `ResetsKept`: once the server has processed
the client's last `Reset`, the collector's highest id is not ahead of the
server's numbering. -/
theorem reset_isolates_epochs
    (h : (system clientIp host encodeDouble).ReachableUnder
      (fun s a => NoStop a ∧ s.ResetsKept a) s)
    (hprocessed : s.resetsProcessed = s.resetsSent)
    (hreceived : s.receiver.metricsCollector.hasReceivedPacket = true) :
    s.receiver.metricsCollector.highestSequenceId
      ≤ s.server.session.nextSequenceId.toNat := by
  have hepochs : s.ResetEpochs := by
    refine h.invariant ?_ fun _ _ _ hs hok hstep =>
      resetEpochs_step hs hok.1 hok.2 hstep
    rintro _ ⟨sessionId, port, -, rfl⟩
    exact ⟨fun _ hn => (nomatch hn), fun _ hm => (nomatch hm), rfl,
      fun _ hp => (nomatch hp), fun _ hp => (nomatch hp),
      fun hr => (nomatch hr)⟩
  rcases hepochs.baseline hreceived with ⟨-, hhigh⟩ | ⟨-, hlt⟩
  · exact hhigh
  · omega

end

/-- A `Reset` with nothing in flight. -/
theorem reset_isolates_epochs_quiet :
    ∃ s : Link Float32, s.resetsSent = 1
      ∧ s.receiver.metricsCollector.hasReceivedPacket = true
      ∧ s.receiver.metricsCollector.highestSequenceId
        ≤ s.server.session.nextSequenceId.toNat := by
  obtain ⟨s, hs, hp⟩ := Lts.exists_reachableUnder loneSystem
    (fun s a => NoStop a ∧ s.ResetsKept a) loneSystem_init
    (commandRun .play ++ [.serverProcess] ++ sendRun 2 ++ recordRun 2
      ++ commandRun .reset ++ [.serverProcess] ++ sendRun 1 ++ recordRun 1)
    (fun s => s.resetsSent == 1 && s.resetsProcessed == s.resetsSent
      && s.receiver.metricsCollector.hasReceivedPacket)
    (by decide +kernel)
  simp only [Bool.and_eq_true, beq_iff_eq] at hp
  exact ⟨s, hp.1.1, hp.2, reset_isolates_epochs hs hp.1.2 hp.2⟩

/-- A run of one `Reset`, which the server has processed, after which the
highest id is ahead of the numbering. -/
def ResetMixes (run : List LinkAction) : Prop :=
  ∃ s, loneSystem.runUnder (fun _ a => Orderly a ∧ NoStop a) loneLink run
      = some s
    ∧ loneSystem.ReachableUnder (fun _ a => Orderly a ∧ NoStop a) s
    ∧ s.resetsSent = 1 ∧ s.resetsProcessed = s.resetsSent
    ∧ s.receiver.metricsCollector.hasReceivedPacket = true
    ∧ s.receiver.metricsCollector.totalReceivedCount = 4
    ∧ s.receiver.metricsCollector.highestSequenceId = 5
    ∧ s.server.session.nextSequenceId = 3

theorem resetMixes_of_run {run : List LinkAction}
    (h : ((loneSystem.runUnder (fun _ a => Orderly a ∧ NoStop a) loneLink
      run).any fun s => s.resetsSent == 1 && s.resetsProcessed == s.resetsSent
        && s.receiver.metricsCollector.hasReceivedPacket
        && s.receiver.metricsCollector.totalReceivedCount == 4
        && s.receiver.metricsCollector.highestSequenceId == 5
        && s.server.session.nextSequenceId == 3) = true) :
    ResetMixes run := by
  obtain ⟨s, hs, hp⟩ := (Option.any_eq_true _ _).mp h
  simp only [Bool.and_eq_true, beq_iff_eq] at hp
  obtain ⟨⟨⟨⟨⟨hsent, hproc⟩, hreceived⟩, htotal⟩, hhighest⟩, hnext⟩ := hp
  exact ⟨s, hs, (Lts.ReachableUnder.init loneSystem_init).runUnder hs, hsent,
    hproc, hreceived, htotal, hhighest, hnext⟩

/-- Packet 5 is still in flight when the client resets, or it has its
number and is sent once the server has processed the `Reset`. Recorded
behind the clearing, it becomes the baseline, and the three packets
numbered after the `Reset` look old. -/
theorem reset_epochs_mix :
    ResetMixes (commandRun .play ++ [.serverProcess] ++ sendRun 5
        ++ recordRun 4 ++ commandRun .reset ++ recordRun 1 ++ [.serverProcess]
        ++ sendRun 3 ++ recordRun 3)
      ∧ ResetMixes (commandRun .play ++ [.serverProcess] ++ sendRun 4
        ++ recordRun 4 ++ [.select, .number 0 []] ++ commandRun .reset
        ++ [.serverProcess, .sendPacket] ++ sendRun 3 ++ recordRun 4) := by
  refine ⟨resetMixes_of_run ?_, resetMixes_of_run ?_⟩
  · decide +kernel
  · decide +kernel

/-! ## Stop -/

section

variable {F : Type} {clientIp : String} {host : Endian.ByteOrder}
  {encodeDouble : ℚ → DoubleBits} {s t : Link F} {a : LinkAction}

/-- `ReceiveWorker` holds a packet past the `isActive_` test. -/
def Holding (s : Link F) : Prop := ∃ p, s.worker = .passed p

instance (s : Link F) : Decidable s.Holding :=
  match h : s.worker with
  | .passed p => .isTrue ⟨p, h⟩
  | .waiting => .isFalse fun ⟨p, hp⟩ => by rw [h] at hp; cases hp
  | .decoded q => .isFalse fun ⟨p, hp⟩ => by rw [h] at hp; cases hp

/-- `Stop` clears the statistics only while no packet is past the test;
`Play` sets `isActive_` only once no packet from before a `Stop` is on
its way, and while it is set the server sends none. -/
def StopsKept (s : Link F) : LinkAction → Prop
  | .commandStep _ =>
      (s.nextStep = some (.stop, .clear) → ¬ s.Holding)
        ∧ (s.nextStep = some (.play, .setActive true) →
          ∀ p ∈ s.underWay, p.stops = s.stopsSent)
  | .sendPacket =>
      s.receiver.isActive = true → s.stopsProcessed = s.stopsSent
  | _ => True

instance (s : Link F) : (a : LinkAction) → Decidable (s.StopsKept a)
  | .commandStep _ => inferInstanceAs (Decidable (_ ∧ _))
  | .sendPacket => inferInstanceAs (Decidable (_ → _))
  | .command _ | .receive _ | .test | .record _ | .lose _ | .duplicate _
  | .serverProcess | .select | .number _ _ => .isTrue trivial

/-- While `isActive_` is set, and past its test, there are only packets
sent after every `Stop` whose clearing is done. -/
structure StopEpochs (s : Link F) : Prop where
  cleared : s.stopsCleared + tally (s.progress = some (.stop, 2))
    = s.stopsSent
  inactive : ∀ n, s.progress = some (.stop, n + 1) →
    s.receiver.isActive = false
  active : s.receiver.isActive = true →
    ∀ p ∈ s.underWay, s.stopsCleared ≤ p.stops
  passed : ∀ p, s.worker = .passed p → s.stopsCleared ≤ p.stops
  recorded : ∀ r ∈ s.recorded, r.stopsCleared ≤ r.packet.stops

theorem StopEpochs.stopsCleared_le (hs : s.StopEpochs) :
    s.stopsCleared ≤ s.stopsSent := by
  have := hs.cleared
  omega

theorem stopEpochs_stop {n : Nat} {now : TimePoint} {step : ClientStep}
    (hs : s.StopEpochs) (hprogress : s.progress = some (.stop, n))
    (hstep : Command.stop.steps[n]? = some step)
    (hhand : step = .clear → ¬ s.Holding) :
    StopEpochs { s.runStep encodeDouble .stop now step with
      progress := advance .stop n } := by
  have hcleared := hs.cleared
  rw [hprogress] at hcleared
  rcases Command.stop_step hstep with
    ⟨rfl, rfl⟩ | ⟨rfl, rfl⟩ | ⟨rfl, rfl⟩
  · exact ⟨hcleared, fun _ _ => rfl, fun h => (nomatch h), hs.passed,
      hs.recorded⟩
  · have hidle := hs.inactive 0 hprogress
    refine ⟨?_, fun _ _ => hidle, ?_, hs.passed, hs.recorded⟩
    · show s.stopsCleared + 1 = s.stopsSent + 1
      exact congrArg (· + 1) hcleared
    · intro h
      rw [show s.receiver.isActive = true from h] at hidle
      cases hidle
  · have hidle := hs.inactive 1 hprogress
    refine ⟨hcleared, fun n hn => (nomatch hn), ?_, ?_, hs.recorded⟩
    · intro h
      rw [show s.receiver.isActive = true from h] at hidle
      cases hidle
    · intro p hp
      exact absurd ⟨p, hp⟩ (hhand rfl)

theorem stopEpochs_other {command : Command} {n : Nat} {now : TimePoint}
    {step : ClientStep} (hs : s.StopEpochs)
    (hprogress : s.progress = some (command, n))
    (hstep : command.steps[n]? = some step) (hcommand : command ≠ .stop)
    (hopen : step = .setActive true →
      ∀ p ∈ s.underWay, p.stops = s.stopsSent) :
    StopEpochs { s.runStep encodeDouble command now step with
      progress := advance command n } := by
  have hcl : (s.runStep encodeDouble command now step).stopsCleared
      = s.stopsCleared := by
    cases step <;> simp [runStep, tally, hcommand]
  have hsent : (s.runStep encodeDouble command now step).stopsSent
      = s.stopsSent := by
    cases step <;> simp [runStep, tally, hcommand]
  have hnext : ∀ k, advance command n ≠ some (.stop, k) := fun k hk =>
    hcommand (advance_eq_some hk).1.symm
  have hcleared := hs.cleared
  rw [hprogress, tally, if_neg (by simp [hcommand]), Nat.add_zero] at hcleared
  refine ⟨?_, fun k hk => absurd hk (hnext _), ?_, ?_, ?_⟩
  · rw [tally, if_neg (hnext 2), Nat.add_zero]
    simpa only [hcl, hsent] using hcleared
  · intro h
    have hopened : ∀ p ∈ s.underWay, s.stopsCleared ≤ p.stops := by
      by_cases hactive : ∃ active, step = .setActive active
      · obtain ⟨active, rfl⟩ := hactive
        obtain rfl : active = true := h
        intro p hp
        rw [hopen rfl p hp]
        exact hs.stopsCleared_le
      · refine hs.active ?_
        rw [← runStep_isActive encodeDouble s command now step
          fun active hset => hactive ⟨active, hset⟩]
        exact h
    simpa only [hcl, underWay, runStep_worker, runStep_flight] using hopened
  · simpa only [hcl, runStep_worker] using hs.passed
  · simpa only [runStep_recorded] using hs.recorded

theorem stopEpochs_commandStep {command : Command} {n : Nat}
    {now : TimePoint} {step : ClientStep} (hs : s.StopEpochs)
    (hok : s.StopsKept (.commandStep now))
    (hprogress : s.progress = some (command, n))
    (hstep : command.steps[n]? = some step) :
    StopEpochs { s.runStep encodeDouble command now step with
      progress := advance command n } := by
  have hnext : s.nextStep = some (command, step) := by
    simp [nextStep, hprogress, hstep]
  by_cases hcommand : command = .stop
  · subst hcommand
    refine stopEpochs_stop hs hprogress hstep fun hclear => hok.1 ?_
    rw [hnext, hclear]
  · refine stopEpochs_other hs hprogress hstep hcommand fun hset => hok.2 ?_
    subst hset
    rw [hnext, (Command.setActive_true_step hstep).1]

theorem stopEpochs_packetMove {worker : WorkerPc} {flight : List Packet}
    (hs : s.StopEpochs) (hmove : PacketMove s worker flight) :
    StopEpochs { s with worker, flight } := by
  refine ⟨hs.cleared, hs.inactive,
    fun h p hp => hs.active h p (hmove.subset p hp), fun p hp => ?_,
    hs.recorded⟩
  rcases hmove.passed p hp with hheld | ⟨hactive, hway⟩
  · exact hs.passed p hheld
  · exact hs.active hactive p hway

theorem stopEpochs_record {clock : UdpReceiver.Clock} {packet : Packet}
    (hs : s.StopEpochs) (hworker : s.worker = .passed packet) :
    (s.recordPacket clock packet).StopEpochs := by
  refine ⟨hs.cleared, hs.inactive,
    fun h p hp => hs.active h p (List.mem_append_right _ hp),
    fun p hp => (nomatch hp), fun r hr => ?_⟩
  rcases List.mem_append.mp hr with hold | hnew
  · exact hs.recorded r hold
  · obtain rfl := List.mem_singleton.mp hnew
    exact hs.passed packet hworker

theorem stopEpochs_sendPacket {packet : Packet} (hs : s.StopEpochs)
    (hok : s.StopsKept .sendPacket) : (s.sendPacket packet).StopEpochs := by
  refine ⟨hs.cleared, hs.inactive, fun h p hp => ?_, hs.passed, hs.recorded⟩
  have hproc : s.stopsProcessed = s.stopsSent := hok h
  have hle := hs.stopsCleared_le
  rw [sendPacket_underWay] at hp
  rcases List.mem_append.mp hp with hold | hlast
  · exact hs.active h p hold
  · obtain rfl := List.mem_singleton.mp hlast
    show s.stopsCleared ≤ s.stopsProcessed
    omega

end

section

variable {F : Type} [FloatArith F] {clientIp : String}
  {host : Endian.ByteOrder} {encodeDouble : ℚ → DoubleBits}
  {s t : Link F} {a : LinkAction}

theorem stopEpochs_step (hs : s.StopEpochs) (hok : s.StopsKept a)
    (h : s.step clientIp host encodeDouble a = some t) : t.StopEpochs := by
  rcases moves_cases (moves_of_step clientIp host encodeDouble h) with
    ⟨command, rfl, hidle, rfl⟩ | ⟨command, n, now, step, rfl, hprogress, hstep,
      rfl⟩ | ⟨worker, flight, hmove, rfl⟩ | ⟨clock, packet, rfl, hworker, rfl⟩
    | ⟨message, channel, rfl, hchannel, rfl⟩ | ⟨rfl, hnone, rfl⟩
    | ⟨timestamp, entities, rfl, hselected, rfl⟩ | ⟨packet, rfl, hnumbered, rfl⟩
  · have hcleared := hs.cleared
    rw [hidle] at hcleared
    refine ⟨?_, ?_, hs.active, hs.passed, hs.recorded⟩
    · have hzero : tally (some (command, 0) = some (Command.stop, 2)) = 0 :=
        if_neg (by simp)
      show s.stopsCleared + tally (some (command, 0) = some (.stop, 2))
        = s.stopsSent
      rw [hzero]
      exact hcleared
    · intro n hn
      cases hn
  · exact stopEpochs_commandStep hs hok hprogress hstep
  · exact stopEpochs_packetMove hs hmove
  · exact stopEpochs_record hs hworker
  · exact ⟨hs.cleared, hs.inactive, hs.active, hs.passed, hs.recorded⟩
  · exact ⟨hs.cleared, hs.inactive, hs.active, hs.passed, hs.recorded⟩
  · exact ⟨hs.cleared, hs.inactive, hs.active, hs.passed, hs.recorded⟩
  · exact stopEpochs_sendPacket hs hok

/-- In the runs that keep to `StopsKept`: a packet recorded after the
clearing of some `Stop` was sent after the server processed it. -/
theorem stop_isolates_epochs
    (h : (system clientIp host encodeDouble).ReachableUnder
      (fun s a => s.StopsKept a) s) :
    ∀ r ∈ s.recorded, r.stopsCleared ≤ r.packet.stops := by
  have hepochs : s.StopEpochs := by
    refine h.invariant ?_ fun _ _ _ hs hok hstep => stopEpochs_step hs hok hstep
    rintro _ ⟨sessionId, port, -, rfl⟩
    exact ⟨rfl, fun _ hn => (nomatch hn), fun ha => (nomatch ha),
      fun _ hp => (nomatch hp), fun _ hr => (nomatch hr)⟩
  exact hepochs.recorded

end

/-- A `Stop` with a packet on its way, which `isActive_` turns away. -/
theorem stop_isolates_epochs_straggler :
    ∃ s : Link Float32, s.stopsCleared = 1 ∧ s.recorded.length = 3
      ∧ ∀ r ∈ s.recorded, r.stopsCleared ≤ r.packet.stops := by
  obtain ⟨s, hs, hp⟩ := Lts.exists_reachableUnder loneSystem
    (fun s a => s.StopsKept a) loneSystem_init
    (commandRun .play ++ [.serverProcess] ++ sendRun 3 ++ recordRun 2
      ++ commandRun .stop ++ [.receive 0, .test] ++ [.serverProcess]
      ++ commandRun .play ++ [.serverProcess] ++ sendRun 1 ++ recordRun 1)
    (fun s => s.stopsCleared == 1 && s.recorded.length == 3)
    (by decide +kernel)
  simp only [Bool.and_eq_true, beq_iff_eq] at hp
  exact ⟨s, hp.1, hp.2, stop_isolates_epochs hs⟩

/-- Two stragglers recorded after a `Stop` cleared the statistics: one was
past the test when `Stop` cleared `isActive_`, the other is still in
flight when the next `Play` sets it again. -/
theorem stop_stragglers_recorded :
    (∃ s, loneSystem.ReachableUnder (fun _ a => Orderly a) s
      ∧ s.progress = none ∧ s.stopsSent = 1 ∧ s.stopsProcessed = 1
      ∧ s.receiver.isActive = false
      ∧ ¬ ∀ r ∈ s.recorded, r.stopsCleared ≤ r.packet.stops)
    ∧ ∃ s, loneSystem.ReachableUnder (fun _ a => Orderly a) s
      ∧ s.progress = none ∧ s.stopsSent = 1 ∧ s.stopsProcessed = 1
      ∧ s.receiver.isActive = true
      ∧ ¬ ∀ r ∈ s.recorded, r.stopsCleared ≤ r.packet.stops := by
  constructor
  · obtain ⟨s, hs, hp⟩ := Lts.exists_reachableUnder loneSystem
      (fun _ a => Orderly a) loneSystem_init
      (commandRun .play ++ [.serverProcess] ++ sendRun 1
        ++ [.receive 0, .test] ++ commandRun .stop
        ++ [.serverProcess, .record ⟨0, 0⟩])
      (fun s => s.progress == none && s.stopsSent == 1
        && s.stopsProcessed == 1 && s.receiver.isActive == false
        && !decide (∀ r ∈ s.recorded, r.stopsCleared ≤ r.packet.stops))
      (by decide +kernel)
    simp only [Bool.and_eq_true, beq_iff_eq, Bool.not_eq_true',
      decide_eq_false_iff_not] at hp
    exact ⟨s, hs, hp.1.1.1.1, hp.1.1.1.2, hp.1.1.2, hp.1.2, hp.2⟩
  · obtain ⟨s, hs, hp⟩ := Lts.exists_reachableUnder loneSystem
      (fun _ a => Orderly a) loneSystem_init
      (commandRun .play ++ [.serverProcess] ++ sendRun 1
        ++ commandRun .stop ++ commandRun .play
        ++ [.serverProcess, .serverProcess] ++ recordRun 1)
      (fun s => s.progress == none && s.stopsSent == 1
        && s.stopsProcessed == 1 && s.receiver.isActive == true
        && !decide (∀ r ∈ s.recorded, r.stopsCleared ≤ r.packet.stops))
      (by decide +kernel)
    simp only [Bool.and_eq_true, beq_iff_eq, Bool.not_eq_true',
      decide_eq_false_iff_not] at hp
    exact ⟨s, hs, hp.1.1.1.1, hp.1.1.1.2, hp.1.1.2, hp.1.2, hp.2⟩

end Link

end NetworkControl
