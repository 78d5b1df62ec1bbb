import NetworkControl.Link

/-!
# LossCount without any loss

Play and Pause over orderly channels. Packets carry consecutive numbers,
and `OnPacketReceived` reports a loss when it is skipped one, so the
only way to a phantom loss is a packet that reaches the client and is
thrown away there after the first one was recorded: `ReceiveWorker` drops
it because `isActive_` is false, or because it does not fit the buffer.

`no_phantom_loss` says that without such a packet `LossCount` stays 0
over every run; the numbers may wrap.
-/

namespace NetworkControl

/-! ## Consecutive numbers -/

/-- `ids` counts on from `prev` and ends at `last`, modulo 2^64. -/
def Numbered : UInt64 → List UInt64 → UInt64 → Prop
  | prev, [], last => prev = last
  | prev, id :: ids, last => id = prev + 1 ∧ Numbered id ids last

theorem Numbered.append_next :
    ∀ {ids : List UInt64} {prev last : UInt64}, Numbered prev ids last →
      Numbered prev (ids ++ [last + 1]) (last + 1)
  | [], _, _, h => ⟨by rw [show _ = _ from h], rfl⟩
  | _ :: _, _, _, ⟨hid, h⟩ => ⟨hid, h.append_next⟩

namespace MetricsCollector

/-- Nothing is missing, and the highest id is `prev` unless the numbers
have wrapped since. -/
structure Received.Lossless (r : Received) (prev : UInt64) : Prop where
  missing : r.missingSequenceIds = ∅
  confirmed : r.confirmedLostCount = 0
  highest : r.hasReceivedPacket = true →
    r.highestSequenceId = prev.toNat ∨ r.highestSequenceId = 2 ^ 64 - 1

/-- The next number leaves no gap. -/
theorem Received.Lossless.record {r : Received} {prev : UInt64}
    (h : r.Lossless prev) :
    (r.record (prev + 1).toNat).Lossless (prev + 1) := by
  have hbound := (prev + 1).toNat_lt
  cases hfirst : r.hasReceivedPacket with
  | false =>
      rw [record_first hfirst]
      exact ⟨h.missing, h.confirmed, fun _ => Or.inl rfl⟩
  | true =>
      by_cases hnewer : (prev + 1).toNat > r.highestSequenceId
      · have hhigh : r.highestSequenceId = prev.toNat := by
          rcases h.highest hfirst with hprev | hwrapped
          · exact hprev
          · omega
        have hgap : Finset.Ioo r.highestSequenceId (prev + 1).toNat = ∅ := by
          have hnext : (prev + 1).toNat ≤ prev.toNat + 1 := by
            rw [UInt64.toNat_add]
            exact Nat.mod_le _ _
          ext id
          simp only [Finset.mem_Ioo, Finset.notMem_empty, iff_false]
          omega
        rw [record_newer hfirst hnewer, h.missing, hgap, Finset.empty_union]
        exact ⟨Finset.filter_empty _, h.confirmed, fun _ => Or.inl rfl⟩
      · rw [record_older hfirst (Nat.not_lt.mp hnewer)]
        refine ⟨?_, h.confirmed, fun _ => Or.inr ?_⟩
        · rw [h.missing]
          exact Finset.erase_empty _
        · -- the number after `prev` is not above it: it wrapped
          have hnext := UInt64.toNat_add prev 1
          have hone : (1 : UInt64).toNat = 1 := rfl
          have hprev := prev.toNat_lt
          rcases h.highest hfirst with hhigh | hwrapped
          · show r.highestSequenceId = 2 ^ 64 - 1
            omega
          · exact hwrapped

/-- Before the first packet any number will do. -/
theorem Received.Lossless.skip {r : Received} {prev id : UInt64}
    (h : r.Lossless prev) (hfirst : r.hasReceivedPacket = false) :
    r.Lossless id := by
  refine ⟨h.missing, h.confirmed, fun hreceived => ?_⟩
  rw [hfirst] at hreceived
  cases hreceived

theorem Received.Lossless.lossCount_eq {m : MetricsCollector} {prev : UInt64}
    (h : m.received.Lossless prev) : m.lossCount = 0 := by
  have hmissing : m.missingSequenceIds = ∅ := h.missing
  have hconfirmed : m.confirmedLostCount = 0 := h.confirmed
  rw [lossCount, hmissing, hconfirmed]
  rfl

end MetricsCollector

namespace Link

section

variable {F : Type} {host : Endian.ByteOrder} {encodeDouble : ℚ → DoubleBits}
  {s t : Link F} {a : LinkAction}

/-! ## The runs -/

/-- The commands of the runs below. -/
def PlayPause : LinkAction → Prop
  | .command command => command = .play ∨ command = .pause
  | _ => True

instance : (a : LinkAction) → Decidable (PlayPause a)
  | .command _ => inferInstanceAs (Decidable (_ ∨ _))
  | .commandStep _ | .receive _ | .test | .record _ | .lose _ | .duplicate _
  | .serverProcess | .select | .number _ _ | .sendPacket => .isTrue trivial

/-- Once a packet is recorded, every packet that arrives fits the buffer
and is tested while `isActive_` is set. -/
def NothingDiscarded (s : Link F) : LinkAction → Prop
  | .receive _ => s.received.hasReceivedPacket = true →
      ∀ packet ∈ s.flight.head?, packet.batch.entities.length ≤ 84
  | .test => s.received.hasReceivedPacket = true →
      s.receiver.isActive = true
  | _ => True

instance (s : Link F) : (a : LinkAction) → Decidable (s.NothingDiscarded a)
  | .receive _ => inferInstanceAs (Decidable (_ → ∀ p ∈ s.flight.head?, _))
  | .test => inferInstanceAs (Decidable (_ → _))
  | .command _ | .commandStep _ | .record _ | .lose _ | .duplicate _
  | .serverProcess | .select | .number _ _ | .sendPacket => .isTrue trivial

/-! ## The invariant -/

/-- Only `Play` and `Pause` are under way. -/
structure PlayPauseOnly (s : Link F) : Prop where
  command : ∀ command n, s.progress = some (command, n) →
    command = .play ∨ command = .pause
  channel : ∀ m ∈ s.channel, m = .play ∨ m = .pause

/-- What is on its way to the collector counts on from where the collector
is to `nextSequenceId_`. -/
def CountsOn (s : Link F) : Prop :=
  ∃ prev, s.received.Lossless prev
    ∧ Numbered prev (s.outstanding.map (·.batch.sequenceId)) s.sequence

theorem PlayPauseOnly.not_clear {command : Command} {n : Nat}
    {step : ClientStep} (hs : s.PlayPauseOnly)
    (hprogress : s.progress = some (command, n))
    (hstep : command.steps[n]? = some step) : step ≠ .clear := by
  rintro rfl
  have hcommand := hs.command command n hprogress
  rcases Command.clear_step hstep with ⟨rfl, -⟩ | ⟨rfl, -⟩
  · rcases hcommand with h | h <;> cases h
  · rcases hcommand with h | h <;> cases h

theorem playPauseOnly_commandStep {command : Command} {n : Nat}
    {now : TimePoint} {step : ClientStep} (hs : s.PlayPauseOnly)
    (hprogress : s.progress = some (command, n)) :
    PlayPauseOnly { s.runStep encodeDouble command now step with
      progress := advance command n } := by
  have hcommand := hs.command command n hprogress
  refine ⟨?_, ?_⟩
  · intro c k hk
    rw [(advance_eq_some hk).1]
    exact hcommand
  · intro m hm
    by_cases hsend : step = .send
    · subst hsend
      rcases List.mem_append.mp hm with hold | hnew
      · exact hs.channel m hold
      · rw [List.mem_singleton.mp hnew]
        rcases hcommand with rfl | rfl
        · exact Or.inl rfl
        · exact Or.inr rfl
    · have hchannel :=
        (s.runStep_channel encodeDouble command now step hsend).1
      exact hs.channel m (hchannel ▸ hm)

/-- An orderly channel delivers the packet at its head. -/
theorem underWay_head {packet : Packet} (hworker : s.worker = .waiting)
    (hpacket : s.flight[0]? = some packet) :
    s.underWay = packet :: s.flight.eraseIdx 0 := by
  rw [underWay, hworker]
  cases hflight : s.flight with
  | nil =>
      rw [hflight] at hpacket
      cases hpacket
  | cons head rest =>
      rw [hflight] at hpacket
      obtain rfl := Option.some.inj hpacket
      rfl

/-- The packet at the head is thrown away before the first recorded one. -/
theorem CountsOn.skip {packet : Packet} {rest : List Packet} {worker : WorkerPc}
    {flight : List Packet} (hs : s.CountsOn)
    (hway : s.underWay = packet :: rest)
    (hrest : worker.hand ++ flight = rest)
    (hfirst : s.received.hasReceivedPacket = false) :
    CountsOn { s with worker, flight } := by
  obtain ⟨prev, hlossless, hnumbered⟩ := hs
  rw [outstanding, hway] at hnumbered
  obtain ⟨-, hnumbered⟩ := hnumbered
  refine ⟨packet.batch.sequenceId, hlossless.skip hfirst, ?_⟩
  rw [outstanding, underWay, show worker.hand ++ flight = rest from hrest]
  exact hnumbered

/-- The packet at the head changes hands. -/
theorem CountsOn.same {worker : WorkerPc} {flight : List Packet}
    (hs : s.CountsOn) (hway : worker.hand ++ flight = s.underWay) :
    CountsOn { s with worker, flight } := by
  obtain ⟨prev, hlossless, hnumbered⟩ := hs
  refine ⟨prev, hlossless, ?_⟩
  rw [outstanding, underWay, show worker.hand ++ flight = s.underWay from hway]
  exact hnumbered

theorem countsOn_commandStep {command : Command} {n : Nat}
    {now : TimePoint} {step : ClientStep} (hs : s.CountsOn)
    (hclear : step ≠ .clear) :
    CountsOn { s.runStep encodeDouble command now step with
      progress := advance command n } := by
  obtain ⟨prev, hlossless, hnumbered⟩ := hs
  refine ⟨prev, ?_, ?_⟩
  · have hsame := runStep_received encodeDouble s command now step hclear
    exact hsame ▸ hlossless
  · simpa only [outstanding, underWay, runStep_worker, runStep_flight,
      runStep_sender, sequence, runStep_server] using hnumbered

theorem countsOn_record {clock : UdpReceiver.Clock} {packet : Packet}
    (hs : s.CountsOn) (hworker : s.worker = .passed packet) :
    (s.recordPacket clock packet).CountsOn := by
  obtain ⟨prev, hlossless, hnumbered⟩ := hs
  rw [s.recordPacket_outstanding clock hworker] at hnumbered
  obtain ⟨hnext : packet.batch.sequenceId = prev + 1, hnumbered⟩ := hnumbered
  refine ⟨packet.batch.sequenceId, ?_, hnumbered⟩
  rw [recordPacket_received, hnext]
  exact hlossless.record

theorem countsOn_select (hs : s.CountsOn) (hnone : s.sender.pending = []) :
    CountsOn { s with sender := .selected } := by
  obtain ⟨prev, hlossless, hnumbered⟩ := hs
  refine ⟨prev, hlossless, ?_⟩
  rw [outstanding, hnone] at hnumbered
  exact hnumbered

theorem countsOn_number {timestamp : UInt64}
    {entities : List EntityStateEntry} (hs : s.CountsOn)
    (hselected : s.sender = .selected) :
    (s.number timestamp entities).CountsOn := by
  obtain ⟨prev, hlossless, hnumbered⟩ := hs
  obtain ⟨packet, hid, -, -, hout⟩ :=
    s.number_outstanding timestamp entities hselected
  refine ⟨prev, hlossless, ?_⟩
  rw [hout, List.map_append, List.map_singleton, hid]
  exact hnumbered.append_next

theorem countsOn_sendPacket {packet : Packet} (hs : s.CountsOn)
    (hnumbered : s.sender = .numbered packet) :
    (s.sendPacket packet).CountsOn := by
  obtain ⟨prev, hlossless, hcounts⟩ := hs
  refine ⟨prev, hlossless, ?_⟩
  rw [s.sendPacket_ids hnumbered]
  exact hcounts

variable [FloatArith F] {clientIp : String}

theorem countsOn_process {message : ClientMessage}
    {channel : List ClientMessage} (hs : s.CountsOn)
    (hmessage : message = .play ∨ message = .pause) :
    (s.process clientIp message channel).CountsOn := by
  obtain ⟨prev, hlossless, hnumbered⟩ := hs
  have hsequence : (s.process clientIp message channel).sequence
      = s.sequence := by
    refine handleMessage_nextSequenceId s.server ?_ ?_
    · rcases hmessage with rfl | rfl <;> exact fun h => nomatch h
    · rcases hmessage with rfl | rfl <;> rfl
  exact ⟨prev, hlossless, hsequence ▸ hnumbered⟩

theorem lossless_step (honly : s.PlayPauseOnly) (hs : s.CountsOn)
    (horderly : Orderly a) (hcommand : PlayPause a)
    (hok : s.NothingDiscarded a)
    (h : s.step clientIp host encodeDouble a = some t) :
    t.PlayPauseOnly ∧ t.CountsOn := by
  cases moves_of_step clientIp host encodeDouble h with
  | command hidle =>
      refine ⟨⟨fun c n hn => ?_, honly.channel⟩, hs⟩
      cases hn
      exact hcommand
  | commandStep hprogress hstep =>
      exact ⟨playPauseOnly_commandStep honly hprogress,
        countsOn_commandStep hs (honly.not_clear hprogress hstep)⟩
  | @receive n packet hworker hpacket hdel =>
      obtain rfl : n = 0 := horderly
      refine ⟨⟨honly.command, honly.channel⟩, hs.same ?_⟩
      rw [underWay_head hworker hpacket]
      rfl
  | @drop n packet hworker hpacket hdel =>
      obtain rfl : n = 0 := horderly
      refine ⟨⟨honly.command, honly.channel⟩,
        hs.skip (underWay_head hworker hpacket) rfl ?_⟩
      by_contra hreceived
      have hfits := hok (by simpa using hreceived) packet
        (by rw [List.head?_eq_getElem?, hpacket]; rfl)
      rw [← deliverable_iff host packet, hdel] at hfits
      cases hfits
  | @pass packet hworker hactive =>
      refine ⟨⟨honly.command, honly.channel⟩, hs.same ?_⟩
      rw [underWay, hworker]
      rfl
  | @discard packet hworker hinactive =>
      refine ⟨⟨honly.command, honly.channel⟩, ?_⟩
      have hway : s.underWay = packet :: s.flight := by
        rw [underWay, hworker]
        rfl
      refine hs.skip hway rfl ?_
      by_contra hreceived
      have hactive := hok (by simpa using hreceived)
      rw [hinactive] at hactive
      cases hactive
  | record hworker =>
      exact ⟨⟨honly.command, honly.channel⟩, countsOn_record hs hworker⟩
  | lose => exact horderly.elim
  | duplicate hpacket => exact horderly.elim
  | @serverProcess message channel hchannel =>
      have hmessage : message = .play ∨ message = .pause :=
        honly.channel message (by rw [hchannel]; exact List.mem_cons_self)
      refine ⟨⟨honly.command, fun m hm => honly.channel m ?_⟩,
        countsOn_process hs hmessage⟩
      rw [hchannel]
      exact List.mem_cons_of_mem _ hm
  | select hplaying hnone =>
      exact ⟨⟨honly.command, honly.channel⟩, countsOn_select hs hnone⟩
  | number hselected =>
      exact ⟨⟨honly.command, honly.channel⟩, countsOn_number hs hselected⟩
  | sendPacket hnumbered =>
      exact ⟨⟨honly.command, honly.channel⟩, countsOn_sendPacket hs hnumbered⟩

/-- In every run of `Play` and `Pause` over orderly channels that discards
nothing after the first recorded packet, `LossCount` is 0 throughout. -/
theorem no_phantom_loss
    (h : (system clientIp host encodeDouble).ReachableUnder
      (fun s a => Orderly a ∧ PlayPause a ∧ s.NothingDiscarded a) s) :
    s.receiver.metricsCollector.lossCount = 0 := by
  have hinv : s.PlayPauseOnly ∧ s.CountsOn := by
    refine h.invariant ?_ fun _ _ _ hs hok hstep =>
      lossless_step hs.1 hs.2 hok.1 hok.2.1 hok.2.2 hstep
    rintro _ ⟨sessionId, port, -, rfl⟩
    refine ⟨⟨fun _ _ hn => (nomatch hn), fun _ hm => (nomatch hm)⟩, 0, ?_, rfl⟩
    exact ⟨rfl, rfl, fun hr => nomatch hr⟩
  obtain ⟨-, prev, hlossless, -⟩ := hinv
  exact hlossless.lossCount_eq

end

/-- The first packet arrives before the client is active, and a `Pause`
finds nothing on its way. -/
theorem no_phantom_loss_quiet_pause :
    ∃ s : Link Float32, s.receiver.metricsCollector.totalReceivedCount = 3
      ∧ s.server.session.nextSequenceId = 4
      ∧ s.receiver.metricsCollector.lossCount = 0 := by
  obtain ⟨s, hs, hp⟩ := Lts.exists_reachableUnder loneSystem
    (fun s a => Orderly a ∧ PlayPause a ∧ s.NothingDiscarded a)
    loneSystem_init
    ([.command .play, .commandStep 0, .serverProcess] ++ sendRun 1
      ++ [.receive 0, .test, .commandStep 0, .commandStep 0] ++ sendRun 2
      ++ recordRun 2 ++ commandRun .pause ++ [.serverProcess]
      ++ commandRun .play ++ [.serverProcess] ++ sendRun 1 ++ recordRun 1)
    (fun s => s.receiver.metricsCollector.totalReceivedCount == 3
      && s.server.session.nextSequenceId == 4)
    (by decide +kernel)
  simp only [Bool.and_eq_true, beq_iff_eq] at hp
  exact ⟨s, hp.1, hp.2, no_phantom_loss hs⟩

/-- Packet 2 arrives while the client is paused and is thrown away. When
packet 3 is recorded after the next `Play`, packet 2 counts as lost. -/
theorem pause_phantom_loss :
    ∃ s, loneSystem.ReachableUnder (fun _ a => Orderly a ∧ PlayPause a) s
      ∧ s.receiver.metricsCollector.totalReceivedCount = 2
      ∧ s.receiver.metricsCollector.lossCount = 1 := by
  obtain ⟨s, hs, hp⟩ := Lts.exists_reachableUnder loneSystem
    (fun _ a => Orderly a ∧ PlayPause a) loneSystem_init
    (commandRun .play ++ [.serverProcess] ++ sendRun 2 ++ recordRun 1
      ++ commandRun .pause ++ [.receive 0, .test, .serverProcess]
      ++ commandRun .play ++ [.serverProcess] ++ sendRun 1 ++ recordRun 1)
    (fun s => s.receiver.metricsCollector.totalReceivedCount == 2
      && s.receiver.metricsCollector.lossCount == 1)
    (by decide +kernel)
  simp only [Bool.and_eq_true, beq_iff_eq] at hp
  exact ⟨s, hs, hp.1, hp.2⟩

end Link

end NetworkControl
