import NetworkControl.LossAccounting

/-!
# Which ids are missing, lost or recovered

The loss counters of `MetricsCollector` say how many; this module says
which. An arrival above the highest id so far raises it, and an arrival
below it by less than the window is still in time. An id between the first
one and the highest one is lost unless one of its arrivals did either
(`Lost`), and recovered if only the latter (`Recovered`). The invariant
`Exact` holds after every arrival, in whatever order and however often the
ids come.

From it comes the exact condition under which the counters conserve
packets, each packet of the range counted once as received or as lost
(`expectedPacketCount_iff`).
-/

namespace NetworkControl

namespace MetricsCollector

/-! ## Arrivals -/

/-- An arrival of `j` came above the highest id before it. -/
def Raised (ids : List Nat) (j : Nat) : Prop :=
  ∃ earlier, earlier ++ [j] <+: ids ∧ ∃ highest ∈ earlier.max?, highest < j

/-- An arrival of `j` came below the highest id before it, by less than the
window. -/
def InTime (ids : List Nat) (j : Nat) : Prop :=
  ∃ earlier, earlier ++ [j] <+: ids ∧ ∃ highest ∈ earlier.max?,
    j < highest ∧ highest - j < missingSequenceWindow

/-- No arrival of `j` counts. -/
def Lost (ids : List Nat) (j : Nat) : Prop :=
  ¬ Raised ids j ∧ ¬ InTime ids j

/-- `j` was passed over, and came in time. -/
def Recovered (ids : List Nat) (j : Nat) : Prop :=
  ¬ Raised ids j ∧ InTime ids j

theorem exists_earlier_iff {ids : List Nat} {j : Nat} {P : List Nat → Prop} :
    (∃ earlier ∈ ids.inits, earlier ++ [j] <+: ids ∧ P earlier)
      ↔ ∃ earlier, earlier ++ [j] <+: ids ∧ P earlier := by
  constructor
  · exact fun ⟨earlier, _, h⟩ => ⟨earlier, h⟩
  · rintro ⟨earlier, hbegins, h⟩
    exact ⟨earlier, (List.mem_inits _ _).mpr
      ((List.prefix_append _ _).trans hbegins), hbegins, h⟩

instance (ids : List Nat) (j : Nat) : Decidable (Raised ids j) :=
  decidable_of_iff _ exists_earlier_iff

instance (ids : List Nat) (j : Nat) : Decidable (InTime ids j) :=
  decidable_of_iff _ exists_earlier_iff

instance (ids : List Nat) (j : Nat) : Decidable (Lost ids j) :=
  inferInstanceAs (Decidable (_ ∧ _))

instance (ids : List Nat) (j : Nat) : Decidable (Recovered ids j) :=
  inferInstanceAs (Decidable (_ ∧ _))

section

variable {ids : List Nat} {id j highest : Nat}

theorem Raised.mem (h : Raised ids j) : j ∈ ids := by
  obtain ⟨earlier, hbegins, -⟩ := h
  exact hbegins.subset (List.mem_append_right _ List.mem_cons_self)

/-- The arrivals of `j` after one more arrival. -/
theorem exists_earlier_concat {P : Nat → Prop}
    (hmax : ids.max? = some highest) :
    (∃ earlier, earlier ++ [j] <+: ids ++ [id] ∧ ∃ h ∈ earlier.max?, P h)
      ↔ (∃ earlier, earlier ++ [j] <+: ids ∧ ∃ h ∈ earlier.max?, P h)
        ∨ j = id ∧ P highest := by
  simp only [List.prefix_concat_iff, or_and_right, exists_or]
  rw [or_comm]
  refine or_congr_right ⟨?_, ?_⟩
  · rintro ⟨earlier, heq, h, hmax', hp⟩
    obtain ⟨rfl, hid⟩ := List.append_inj' heq rfl
    obtain rfl := List.singleton_inj.mp hid
    obtain rfl := Option.some.inj (hmax.symm.trans hmax')
    exact ⟨rfl, hp⟩
  · rintro ⟨rfl, hp⟩
    exact ⟨ids, rfl, highest, hmax, hp⟩

theorem raised_concat (hmax : ids.max? = some highest) :
    Raised (ids ++ [id]) j ↔ Raised ids j ∨ j = id ∧ highest < j :=
  exists_earlier_concat hmax

theorem inTime_concat (hmax : ids.max? = some highest) :
    InTime (ids ++ [id]) j ↔ InTime ids j
      ∨ j = id ∧ j < highest ∧ highest - j < missingSequenceWindow :=
  exists_earlier_concat hmax

/-- One more arrival is no news of any other id. -/
theorem lost_concat_of_ne (hmax : ids.max? = some highest) (hj : j ≠ id) :
    Lost (ids ++ [id]) j ↔ Lost ids j := by
  rw [Lost, Lost, raised_concat hmax, inTime_concat hmax]
  simp only [hj, false_and, or_false]

theorem recovered_concat_of_ne (hmax : ids.max? = some highest)
    (hj : j ≠ id) : Recovered (ids ++ [id]) j ↔ Recovered ids j := by
  rw [Recovered, Recovered, raised_concat hmax, inTime_concat hmax]
  simp only [hj, false_and, or_false]

/-- What came in time came below the highest id. -/
theorem InTime.lt (h : InTime ids j) (hmax : ids.max? = some highest) :
    j < highest := by
  obtain ⟨earlier, hbegins, highest', hmax', hlt, -⟩ := h
  have hmem := (List.max?_eq_some_iff.mp hmax').1
  have hle := (List.max?_eq_some_iff.mp hmax).2 highest'
    (hbegins.subset (List.mem_append_left _ hmem))
  omega

end

/-! ## The counters, arrival by arrival -/

namespace Received

/-- `OnPacketReceived` finds the id among the missing ones. -/
def Fills (r : Received) (id : Nat) : Prop :=
  r.hasReceivedPacket = true ∧ id ≤ r.highestSequenceId
    ∧ id ∈ r.missingSequenceIds

instance (r : Received) (id : Nat) : Decidable (r.Fills id) :=
  inferInstanceAs (Decidable (_ ∧ _ ∧ _))

/-- The ids that expire when `id` arrives: `ExpireStaleMissingSequenceIds`
takes them from the missing ones and counts them as confirmed. -/
def expired (r : Received) (id : Nat) : Finset Nat :=
  if r.hasReceivedPacket = true ∧ id > r.highestSequenceId then
    (r.missingSequenceIds ∪ Finset.Ioo r.highestSequenceId id).filter fun j =>
      missingSequenceWindow < id ∧ j ≤ id - missingSequenceWindow
  else ∅

/-- The ids confirmed as lost while `ids` arrive. -/
def confirmedLost (r : Received) : List Nat → Finset Nat
  | [] => ∅
  | id :: ids => r.expired id ∪ (r.record id).confirmedLost ids

theorem confirmedLost_concat (ids : List Nat) (id : Nat) :
    ∀ r : Received, r.confirmedLost (ids ++ [id])
      = r.confirmedLost ids ∪ (ids.foldl Received.record r).expired id := by
  induction ids with
  | nil =>
      intro r
      exact Finset.union_comm _ _
  | cons first ids ih =>
      intro r
      rw [List.cons_append, confirmedLost, confirmedLost, ih,
        Finset.union_assoc]
      rfl

theorem expired_newer {r : Received} {id : Nat}
    (h : r.hasReceivedPacket = true) (hgt : id > r.highestSequenceId) :
    r.expired id
      = (r.missingSequenceIds ∪ Finset.Ioo r.highestSequenceId id).filter
        fun j => missingSequenceWindow < id
          ∧ j ≤ id - missingSequenceWindow :=
  if_pos ⟨h, hgt⟩

theorem expired_older {r : Received} {id : Nat}
    (hle : id ≤ r.highestSequenceId) : r.expired id = ∅ :=
  if_neg fun h => absurd h.2 (Nat.not_lt.mpr hle)

/-- Each of them is counted when it expires. -/
theorem record_confirmedLostCount (r : Received) (id : Nat) :
    (r.record id).confirmedLostCount
      = r.confirmedLostCount + (r.expired id).card := by
  unfold record expired
  cases r.hasReceivedPacket with
  | false => rfl
  | true =>
      by_cases hnewer : id > r.highestSequenceId
      · simp [hnewer]
      · simp [hnewer]

/-- The loss counters and the out-of-order count after the arrivals `ids`,
of which the first is `first`. -/
structure Exact (r : Received) (lost : Finset Nat) (outOfOrderCount : Nat)
    (ids : List Nat) (first : Nat) : Prop where
  received : r.hasReceivedPacket = true
  head : ids.head? = some first
  highest : ids.max? = some r.highestSequenceId
  raised : r.highestSequenceId = first ∨ Raised ids r.highestSequenceId
  missing : r.missingSequenceIds
    = (Finset.Ioo first r.highestSequenceId).filter fun j =>
      Lost ids j ∧ r.highestSequenceId - j < missingSequenceWindow
  confirmedCount : r.confirmedLostCount = lost.card
  confirmed : lost
    = (Finset.Ioo first r.highestSequenceId).filter fun j =>
      Lost ids j ∧ ¬ r.highestSequenceId - j < missingSequenceWindow
  outOfOrder : outOfOrderCount
    = ((Finset.Ioo first r.highestSequenceId).filter fun j =>
      Recovered ids j).card

theorem exact_first (id : Nat) :
    (Received.none.record id).Exact ∅ 0 [id] id := by
  rw [record_first rfl]
  refine ⟨rfl, rfl, rfl, Or.inl rfl, ?_, rfl, ?_, ?_⟩
  · rw [Finset.Ioo_self]
    rfl
  · rw [Finset.Ioo_self]
    rfl
  · rw [Finset.Ioo_self]
    rfl

namespace Exact

variable {r : Received} {lost : Finset Nat} {outOfOrderCount : Nat}
  {ids : List Nat} {first id : Nat}

theorem le_highest (h : r.Exact lost outOfOrderCount ids first) {j : Nat}
    (hj : j ∈ ids) : j ≤ r.highestSequenceId :=
  (List.max?_eq_some_iff.mp h.highest).2 j hj

theorem first_le (h : r.Exact lost outOfOrderCount ids first) :
    first ≤ r.highestSequenceId :=
  h.le_highest (List.mem_of_head? h.head)

theorem head_concat (h : r.Exact lost outOfOrderCount ids first) (id : Nat) :
    (ids ++ [id]).head? = some first := by
  rw [List.head?_append, h.head]
  rfl

/-- The ids of a new gap are lost for now. -/
theorem lost_above (h : r.Exact lost outOfOrderCount ids first) {j : Nat}
    (hj : r.highestSequenceId < j) : Lost ids j := by
  refine ⟨fun hraised => ?_, fun htime => ?_⟩
  · have hle := h.le_highest hraised.mem
    omega
  · have hlt := htime.lt h.highest
    omega

/-- The highest id is the first one or was an arrival above the highest. -/
theorem not_lost_highest (h : r.Exact lost outOfOrderCount ids first)
    (hlt : first < r.highestSequenceId) : ¬ Lost ids r.highestSequenceId :=
  fun hlost => hlost.1 (h.raised.resolve_left hlt.ne')

/-- The gap up to a new highest id is lost for now, and the window moves. -/
theorem record_newer (h : r.Exact lost outOfOrderCount ids first)
    (hnewer : id > r.highestSequenceId) :
    (r.record id).Exact (lost ∪ r.expired id) outOfOrderCount
      (ids ++ [id]) first := by
  have hfirst := h.first_le
  have hwindow : missingSequenceWindow = 1000 := rfl
  have hlost : ∀ j, j < id → (Lost (ids ++ [id]) j ↔ Lost ids j) :=
    fun j hj => lost_concat_of_ne h.highest hj.ne
  have habove : ∀ j, r.highestSequenceId < j → Lost ids j :=
    fun j hj => h.lost_above hj
  have hhighest : ∀ j, j = r.highestSequenceId → first < j →
      ¬ Lost ids j := by
    rintro j rfl hlt
    exact h.not_lost_highest hlt
  have hcount := r.record_confirmedLostCount id
  rw [Received.record_newer h.received hnewer,
    expired_newer h.received hnewer] at *
  refine ⟨h.received, h.head_concat id, ?_, Or.inr ?_, ?_, ?_, ?_, ?_⟩
  · refine List.max?_eq_some_iff.mpr ⟨by simp, fun j hj => ?_⟩
    rcases List.mem_append.mp hj with hj | hj
    · exact (h.le_highest hj).trans hnewer.le
    · exact (List.mem_singleton.mp hj).le
  · exact (raised_concat h.highest).mpr (Or.inr ⟨rfl, hnewer⟩)
  · ext j
    rw [h.missing]
    simp only [Finset.mem_filter, Finset.mem_union, Finset.mem_Ioo]
    have hlost := hlost j
    have habove := habove j
    have hhighest := hhighest j
    constructor
    · rintro ⟨(⟨⟨hgt, hlt⟩, hj, hrecent⟩ | ⟨hgt, hlt⟩), hold⟩
      · exact ⟨⟨hgt, by omega⟩, (hlost (by omega)).mpr hj, by omega⟩
      · exact ⟨⟨by omega, hlt⟩, (hlost hlt).mpr (habove hgt), by omega⟩
    · rintro ⟨⟨hgt, hlt⟩, hj, hrecent⟩
      have hj := (hlost hlt).mp hj
      refine ⟨?_, by omega⟩
      rcases Nat.lt_trichotomy j r.highestSequenceId with hbelow | heq | hnew
      · exact Or.inl ⟨⟨hgt, hbelow⟩, hj, by omega⟩
      · exact absurd hj (hhighest heq hgt)
      · exact Or.inr ⟨hnew, hlt⟩
  · rw [hcount, h.confirmedCount, Finset.card_union_of_disjoint]
    rw [Finset.disjoint_left, h.confirmed, h.missing]
    simp only [Finset.mem_filter, Finset.mem_union, Finset.mem_Ioo]
    rintro j ⟨⟨hgt, hlt⟩, hj, hold⟩ ⟨hor, hle⟩
    omega
  · rw [h.confirmed, h.missing]
    ext j
    simp only [Finset.mem_filter, Finset.mem_union, Finset.mem_Ioo]
    grind
  · rw [h.outOfOrder]
    congr 1
    ext j
    simp only [Finset.mem_filter, Finset.mem_Ioo]
    constructor
    · rintro ⟨⟨hgt, hlt⟩, hj⟩
      exact ⟨⟨hgt, by omega⟩,
        (recovered_concat_of_ne h.highest (by omega)).mpr hj⟩
    · rintro ⟨⟨hgt, hlt⟩, hj⟩
      have hj := (recovered_concat_of_ne h.highest hlt.ne).mp hj
      exact ⟨⟨hgt, hj.2.lt h.highest⟩, hj⟩

theorem lost_older (h : r.Exact lost outOfOrderCount ids first)
    (hle : id ≤ r.highestSequenceId) (j : Nat) :
    Lost (ids ++ [id]) j ↔ Lost ids j ∧ ¬ (j = id ∧ j < r.highestSequenceId
      ∧ r.highestSequenceId - j < missingSequenceWindow) := by
  have hraised : ¬ (j = id ∧ r.highestSequenceId < j) := by omega
  rw [Lost, Lost, raised_concat h.highest, inTime_concat h.highest,
    or_iff_left hraised, not_or, and_assoc]

/-- Only a lost id can be recovered. -/
theorem recovered_older (h : r.Exact lost outOfOrderCount ids first)
    (hle : id ≤ r.highestSequenceId) (j : Nat) :
    Recovered (ids ++ [id]) j ↔ Recovered ids j ∨ Lost ids j ∧ j = id
      ∧ j < r.highestSequenceId
      ∧ r.highestSequenceId - j < missingSequenceWindow := by
  have hraised : ¬ (j = id ∧ r.highestSequenceId < j) := by omega
  rw [Recovered, Recovered, Lost, raised_concat h.highest,
    inTime_concat h.highest, or_iff_left hraised]
  tauto

theorem fills_iff (h : r.Exact lost outOfOrderCount ids first)
    (hle : id ≤ r.highestSequenceId) :
    r.Fills id ↔ (first < id ∧ id < r.highestSequenceId) ∧ Lost ids id
      ∧ r.highestSequenceId - id < missingSequenceWindow := by
  rw [Fills, h.missing, Finset.mem_filter, Finset.mem_Ioo]
  exact ⟨fun hfills => hfills.2.2, fun hmem => ⟨h.received, hle, hmem⟩⟩

theorem card_recovered_older (h : r.Exact lost outOfOrderCount ids first)
    (hle : id ≤ r.highestSequenceId) :
    ((Finset.Ioo first r.highestSequenceId).filter fun j =>
        Recovered (ids ++ [id]) j).card
      = ((Finset.Ioo first r.highestSequenceId).filter fun j =>
          Recovered ids j).card + if r.Fills id then 1 else 0 := by
  simp only [h.recovered_older hle]
  split
  · rename_i hfills
    obtain ⟨hbetween, hlost, hrecent⟩ := (h.fills_iff hle).mp hfills
    rw [← Finset.card_insert_of_notMem (a := id)
      (fun hmem => hlost.2 (Finset.mem_filter.mp hmem).2.2)]
    congr 1
    ext j
    simp only [Finset.mem_insert, Finset.mem_filter, Finset.mem_Ioo]
    constructor
    · rintro ⟨hj, hrecovered | ⟨-, heq, -⟩⟩
      · exact Or.inr ⟨hj, hrecovered⟩
      · exact Or.inl heq
    · rintro (rfl | ⟨hj, hrecovered⟩)
      · exact ⟨hbetween, Or.inr ⟨hlost, rfl, hbetween.2, hrecent⟩⟩
      · exact ⟨hj, Or.inl hrecovered⟩
  · rename_i hfills
    rw [Nat.add_zero]
    congr 1
    ext j
    simp only [Finset.mem_filter, Finset.mem_Ioo]
    refine and_congr_right fun hj => or_iff_left ?_
    rintro ⟨hlost, rfl, hlt, hrecent⟩
    exact hfills ((h.fills_iff hle).mpr ⟨hj, hlost, hrecent⟩)

/-- An arrival at or below the highest id recovers a lost one, or does
nothing. -/
theorem record_older (h : r.Exact lost outOfOrderCount ids first)
    (hle : id ≤ r.highestSequenceId) :
    (r.record id).Exact (lost ∪ r.expired id)
      (outOfOrderCount + if r.Fills id then 1 else 0) (ids ++ [id]) first := by
  rw [Received.record_older h.received hle, expired_older hle,
    Finset.union_empty]
  refine ⟨h.received, h.head_concat id, ?_, ?_, ?_, h.confirmedCount, ?_, ?_⟩
  · have hmax := List.max?_eq_some_iff.mp h.highest
    refine List.max?_eq_some_iff.mpr
      ⟨List.mem_append_left _ hmax.1, fun j hj => ?_⟩
    rcases List.mem_append.mp hj with hj | hj
    · exact h.le_highest hj
    · exact List.mem_singleton.mp hj ▸ hle
  · exact h.raised.imp_right fun hraised =>
      (raised_concat h.highest).mpr (Or.inl hraised)
  · ext j
    rw [h.missing]
    simp only [Finset.mem_erase, Finset.mem_filter, Finset.mem_Ioo,
      h.lost_older hle]
    constructor
    · rintro ⟨hne, hbetween, hlost, hrecent⟩
      exact ⟨hbetween, ⟨hlost, fun hid => hne hid.1⟩, hrecent⟩
    · rintro ⟨hbetween, ⟨hlost, hid⟩, hrecent⟩
      exact ⟨fun hj => hid ⟨hj, hbetween.2, hrecent⟩, hbetween, hlost, hrecent⟩
  · rw [h.confirmed]
    ext j
    simp only [Finset.mem_filter, Finset.mem_Ioo, h.lost_older hle]
    constructor
    · rintro ⟨hbetween, hlost, hold⟩
      exact ⟨hbetween, ⟨hlost, fun hid => hold hid.2.2⟩, hold⟩
    · rintro ⟨hbetween, hlost, hold⟩
      exact ⟨hbetween, hlost.1, hold⟩
  · rw [h.outOfOrder]
    exact (h.card_recovered_older hle).symm

theorem not_fills_newer (hnewer : id > r.highestSequenceId) :
    ¬ r.Fills id :=
  fun hfills => absurd hfills.2.1 (Nat.not_le.mpr hnewer)

theorem record (h : r.Exact lost outOfOrderCount ids first) (id : Nat) :
    (r.record id).Exact (lost ∪ r.expired id)
      (outOfOrderCount + if r.Fills id then 1 else 0) (ids ++ [id]) first := by
  rcases Nat.lt_or_ge r.highestSequenceId id with hnewer | hle
  · rw [if_neg (not_fills_newer hnewer)]
    exact h.record_newer hnewer
  · exact h.record_older hle

/-- The ids the loss counters count, those that are only a number by now
among them. -/
theorem countedLost (h : r.Exact lost outOfOrderCount ids first) :
    r.missingSequenceIds ∪ lost
      = (Finset.Ioo first r.highestSequenceId).filter fun j => Lost ids j := by
  rw [h.missing, h.confirmed, ← Finset.filter_filter, ← Finset.filter_filter]
  exact Finset.filter_union_filter_not_eq _ _

theorem disjoint (h : r.Exact lost outOfOrderCount ids first) :
    Disjoint r.missingSequenceIds lost := by
  rw [h.missing, h.confirmed, ← Finset.filter_filter, ← Finset.filter_filter]
  exact Finset.disjoint_filter_filter_not _ _ _

theorem confirmedLostCount (h : r.Exact lost outOfOrderCount ids first) :
    r.confirmedLostCount
      = ((Finset.Ioo first r.highestSequenceId).filter fun j =>
        Lost ids j
          ∧ ¬ r.highestSequenceId - j < missingSequenceWindow).card := by
  rw [h.confirmedCount, h.confirmed]

end Exact

end Received

/-! ## The collector -/

section

variable (m : MetricsCollector) (receivedTime : TimePoint)
  (nowMicroseconds sequenceId sendTimestamp : Nat)

theorem countReceived_outOfOrderCount :
    (m.countReceived nowMicroseconds sendTimestamp).outOfOrderCount
      = m.outOfOrderCount := by
  rw [countReceived, recordLatency]
  split <;> rfl

theorem recordReceiveInterval_outOfOrderCount :
    (m.recordReceiveInterval receivedTime sequenceId).outOfOrderCount
      = m.outOfOrderCount := by
  simp only [recordReceiveInterval]
  split_ifs <;> rfl

theorem expireStale_outOfOrderCount :
    (m.expireStaleMissingSequenceIds sequenceId).outOfOrderCount
      = m.outOfOrderCount := by
  unfold expireStaleMissingSequenceIds
  split <;> rfl

theorem onPacketReceived_outOfOrderCount :
    (m.onPacketReceived receivedTime nowMicroseconds sequenceId
        sendTimestamp).outOfOrderCount
      = m.outOfOrderCount + if m.received.Fills sequenceId then 1 else 0 := by
  have hcount := m.countReceived_outOfOrderCount nowMicroseconds sendTimestamp
  have hreceived := m.countReceived_received nowMicroseconds sendTimestamp
  unfold onPacketReceived
  dsimp only
  generalize m.countReceived nowMicroseconds sendTimestamp = n at *
  rw [← hcount, ← hreceived]
  split
  · rename_i h
    have hnone : ¬ n.received.Fills sequenceId := by
      rintro ⟨hfirst, -⟩
      rw [show n.hasReceivedPacket = true from hfirst] at h
      cases h
    rw [if_neg hnone]
    rfl
  · rename_i h
    have hfirst : n.hasReceivedPacket = true := by simpa using h
    split
    · rename_i hnewer
      rw [expireStale_outOfOrderCount, if_neg (Received.Exact.not_fills_newer
        (r := n.received) hnewer)]
      exact recordReceiveInterval_outOfOrderCount _ _ _
    · rename_i hle
      split
      · rename_i hmem
        rw [if_pos (show n.received.Fills sequenceId from
          ⟨hfirst, Nat.not_lt.mp hle, hmem⟩)]
      · rename_i hmem
        rw [if_neg (fun hfills : n.received.Fills sequenceId =>
          hmem hfills.2.2)]
        rfl

end

theorem Call.apply_outOfOrderCount (m : MetricsCollector) (call : Call) :
    (call.apply m).outOfOrderCount = m.outOfOrderCount
      + call.sequenceId?.elim 0 fun id =>
        if m.received.Fills id then 1 else 0 := by
  cases call with
  | onPacketReceived receivedTime nowMicroseconds sequenceId sendTimestamp =>
      exact m.onPacketReceived_outOfOrderCount _ _ _ _
  | setExpectedDataRate dataRate => rfl
  | onPlay now =>
      rw [Call.apply, MetricsCollector.onPlay]
      split <;> rfl
  | onPause now =>
      rw [Call.apply, MetricsCollector.onPause]
      split <;> rfl

theorem sequenceIds_concat (calls : List Call) (call : Call) :
    sequenceIds (calls ++ [call])
      = sequenceIds calls ++ call.sequenceId?.toList := by
  rw [sequenceIds, sequenceIds, List.filterMap_append]
  cases call <;> rfl

/-- Nothing has arrived since the `Reset`, or the counters are exact. -/
theorem exact_sinceReset (m : MetricsCollector) (calls : List Call) :
    (sequenceIds calls = [] ∧ (m.sinceReset calls).received = Received.none
        ∧ (m.sinceReset calls).outOfOrderCount = 0)
      ∨ ∃ first, (m.sinceReset calls).received.Exact
        (Received.none.confirmedLost (sequenceIds calls))
        (m.sinceReset calls).outOfOrderCount (sequenceIds calls) first := by
  induction calls using List.reverseRecOn with
  | nil => exact Or.inl ⟨rfl, rfl, rfl⟩
  | append_singleton calls call ih =>
      have hstep : m.sinceReset (calls ++ [call])
          = call.apply (m.sinceReset calls) := List.foldl_concat ..
      rw [hstep, sequenceIds_concat, Call.apply_received,
        Call.apply_outOfOrderCount]
      cases hid : call.sequenceId? with
      | none =>
          rw [Option.toList_none, List.append_nil]
          exact ih
      | some id =>
          right
          rcases ih with ⟨hids, hnone, hzero⟩ | ⟨first, hexact⟩
          · refine ⟨id, ?_⟩
            rw [hids, hnone, hzero]
            exact Received.exact_first id
          · refine ⟨first, ?_⟩
            have hrecord := hexact.record id
            rw [sinceReset_received, ← Received.confirmedLost_concat,
              ← sinceReset_received] at hrecord
            exact hrecord

/-- What the loss counters say after the arrivals `ids`. -/
structure LossAccounted (m : MetricsCollector)
    (snapshot : MetricsSnapshot Nat ℚ) (ids : List Nat)
    (first highest : Nat) : Prop where
  lossCount : snapshot.lossCount
    = ((Finset.Ioo first highest).filter fun j => Lost ids j).card
  missing : m.missingSequenceIds
    = (Finset.Ioo first highest).filter fun j =>
      Lost ids j ∧ highest - j < missingSequenceWindow
  atMost : m.missingSequenceIds.card ≤ 999
  confirmed : m.confirmedLostCount
    = ((Finset.Ioo first highest).filter fun j =>
      Lost ids j ∧ ¬ highest - j < missingSequenceWindow).card
  outOfOrder : snapshot.outOfOrderCount
    = ((Finset.Ioo first highest).filter fun j => Recovered ids j).card

/-- Between the first and the highest id received since a `Reset`: which
ids are counted as lost, which of them may still come in time, and which
did. -/
theorem loss_accounted (m : MetricsCollector) (now : TimePoint)
    {calls : List Call} {first highest : Nat}
    (hfirst : (sequenceIds calls).head? = some first)
    (hhighest : (sequenceIds calls).max? = some highest) :
    LossAccounted (m.sinceReset calls) ((m.sinceReset calls).getSnapshot now)
      (sequenceIds calls) first highest := by
  rcases m.exact_sinceReset calls with ⟨hids, -⟩ | ⟨first', hexact⟩
  · rw [hids] at hfirst
    cases hfirst
  · obtain rfl := Option.some.inj (hexact.head.symm.trans hfirst)
    obtain rfl := Option.some.inj (hexact.highest.symm.trans hhighest)
    refine ⟨?_, hexact.missing, ?_, hexact.confirmedLostCount,
      hexact.outOfOrder⟩
    · rw [← hexact.countedLost, Finset.card_union_of_disjoint hexact.disjoint,
        ← hexact.confirmedCount]
      exact Nat.add_comm _ _
    · have hsubset : (m.sinceReset calls).missingSequenceIds
          ⊆ Finset.Ioo ((m.sinceReset calls).highestSequenceId
            - missingSequenceWindow) (m.sinceReset calls).highestSequenceId := by
        intro j hj
        have hj : j ∈ (m.sinceReset calls).received.missingSequenceIds := hj
        rw [hexact.missing, Finset.mem_filter, Finset.mem_Ioo] at hj
        obtain ⟨⟨hgt, hlt⟩, -, hrecent⟩ := hj
        refine Finset.mem_Ioo.mpr ⟨?_, hlt⟩
        have hrecent : (m.sinceReset calls).highestSequenceId - j
            < missingSequenceWindow := hrecent
        omega
      have hcard := Finset.card_le_card hsubset
      rw [Nat.card_Ioo] at hcard
      have hwindow : missingSequenceWindow = 1000 := rfl
      omega

/-- 6 is lost, 7 comes in time; 8 again and 3 are nothing new. -/
theorem loss_accounted_reordered :
    ((sinceReset {} (arrivals [5, 8, 7, 8, 3])).getSnapshot 0).lossCount = 1
      ∧ ((sinceReset {} (arrivals [5, 8, 7, 8, 3])).getSnapshot
        0).outOfOrderCount = 1 := by
  have hfirst : (sequenceIds (arrivals [5, 8, 7, 8, 3])).head? = some 5 := rfl
  have hhighest : (sequenceIds (arrivals [5, 8, 7, 8, 3])).max? = some 8 := rfl
  have h := loss_accounted {} 0 hfirst hhighest
  rw [sequenceIds_arrivals] at h
  exact ⟨h.lossCount.trans (by decide), h.outOfOrder.trans (by decide)⟩

/-! ## Conservation -/

/-- The ids that are counted as lost: the missing ones, and those that were
confirmed as lost along the way. -/
def countedLost (m : MetricsCollector) (calls : List Call) : Finset Nat :=
  (m.sinceReset calls).missingSequenceIds
    ∪ Received.none.confirmedLost (sequenceIds calls)

/-- The server sent the ids from `lowest` to `highest`, and each is counted
once: as received if it is one of `ids`, as lost if not. -/
structure CountedOnce (snapshot : MetricsSnapshot Nat ℚ) (lost : Finset Nat)
    (ids : List Nat) (lowest highest : Nat) : Prop where
  received : snapshot.totalReceivedCount = ids.toFinset.card
  lostIds : lost = Finset.Icc lowest highest \ ids.toFinset
  lossCount : snapshot.lossCount = lost.card
  total : snapshot.totalReceivedCount + snapshot.lossCount
    = highest - lowest + 1
  lossRate : snapshot.lossRate
    = (snapshot.lossCount : ℚ) / ((highest - lowest + 1 : Nat) : ℚ) * 100

/-- Every packet from the lowest id received to the highest one is counted
exactly once. -/
def Conserves (snapshot : MetricsSnapshot Nat ℚ) (lost : Finset Nat)
    (ids : List Nat) : Prop :=
  ∀ lowest ∈ ids.min?, ∀ highest ∈ ids.max?,
    CountedOnce snapshot lost ids lowest highest

/-- No id from `first` on arrives after an id that is 1000 or more
larger. -/
def WithinWindowFrom (first : Nat) (ids : List Nat) : Prop :=
  ids.Pairwise fun earlier later =>
    first ≤ later → earlier < later + missingSequenceWindow

/-- The loss counters count what is lost. -/
theorem countedLost_eq (m : MetricsCollector) {calls : List Call}
    {first highest : Nat} (hfirst : (sequenceIds calls).head? = some first)
    (hhighest : (sequenceIds calls).max? = some highest) :
    m.countedLost calls
        = (Finset.Ioo first highest).filter (fun j =>
          Lost (sequenceIds calls) j)
      ∧ (m.sinceReset calls).lossCount = (m.countedLost calls).card := by
  rcases m.exact_sinceReset calls with ⟨hids, -⟩ | ⟨first', hexact⟩
  · rw [hids] at hfirst
    cases hfirst
  · obtain rfl := Option.some.inj (hexact.head.symm.trans hfirst)
    obtain rfl := Option.some.inj (hexact.highest.symm.trans hhighest)
    refine ⟨hexact.countedLost, ?_⟩
    refine Eq.trans ?_ (Finset.card_union_of_disjoint hexact.disjoint).symm
    rw [← hexact.confirmedCount]
    exact Nat.add_comm _ _

section

variable {ids earlier later : List Nat} {first lowest highest j : Nat}

theorem lost_of_notMem (h : j ∉ ids) : Lost ids j := by
  refine ⟨fun hraised => h hraised.mem, ?_⟩
  rintro ⟨earlier, hbegins, -⟩
  exact h (hbegins.subset (List.mem_append_right _ List.mem_cons_self))

/-- Of an id that arrives once, behind others: it is lost if it is 1000 or
more below one of them. -/
theorem lost_iff_late (hsplit : ids = earlier ++ j :: later)
    (hnodup : ids.Nodup) (hne : earlier ≠ []) :
    Lost ids j ↔ ∃ higher ∈ earlier, j + missingSequenceWindow ≤ higher := by
  subst hsplit
  have hbefore : j ∉ earlier := fun hmem =>
    List.disjoint_of_nodup_append hnodup hmem List.mem_cons_self
  have hafter : j ∉ later :=
    (List.nodup_cons.mp (List.nodup_append.mp hnodup).2.1).1
  obtain ⟨top, htop⟩ : ∃ top, earlier.max? = some top := by
    cases earlier with
    | nil => exact absurd rfl hne
    | cons id earlier => exact ⟨_, rfl⟩
  obtain ⟨hmem, hle⟩ := List.max?_eq_some_iff.mp htop
  have hunique : ∀ P : Nat → Prop,
      (∃ e, e ++ [j] <+: earlier ++ j :: later ∧ ∃ h ∈ e.max?, P h)
        ↔ P top := by
    intro P
    constructor
    · rintro ⟨e, ⟨rest, heq⟩, h, hmax, hp⟩
      rw [List.append_assoc, List.singleton_append] at heq
      obtain ⟨rfl, -, -⟩ :=
        (List.append_cons_inj_of_notMem hbefore hafter).mp heq.symm
      obtain rfl := Option.some.inj (htop.symm.trans hmax)
      exact hp
    · intro hp
      exact ⟨earlier, ⟨later, by rw [List.append_assoc]; rfl⟩, top, htop, hp⟩
  have htopne : top ≠ j := fun heq => hbefore (heq ▸ hmem)
  rw [Lost, Raised, InTime, hunique, hunique]
  constructor
  · intro hlost
    exact ⟨top, hmem, by omega⟩
  · rintro ⟨higher, hhigher, hlate⟩
    have htoplate := hle higher hhigher
    have hwindow : missingSequenceWindow = 1000 := rfl
    omega

/-- Distinct ids: the lost ones are those of the range that did not arrive
if and only if none comes too late and none below the first is missing. -/
theorem lost_eq_iff (hnodup : ids.Nodup) (hfirst : ids.head? = some first)
    (hlowest : ids.min? = some lowest) (hhighest : ids.max? = some highest) :
    ((Finset.Ioo first highest).filter fun j => Lost ids j)
        = Finset.Icc lowest highest \ ids.toFinset
      ↔ WithinWindowFrom first ids
        ∧ ∀ j, lowest ≤ j → j < first → j ∈ ids := by
  obtain ⟨hmax, hle⟩ := List.max?_eq_some_iff.mp hhighest
  obtain ⟨-, hge⟩ := List.min?_eq_some_iff.mp hlowest
  have hfirstmem := List.mem_of_head? hfirst
  have hwindow : missingSequenceWindow = 1000 := rfl
  -- what is behind others does not come first
  have hbehind : ∀ {earlier later : List Nat} {j : Nat},
      ids = earlier ++ j :: later → earlier ≠ [] →
        first ∈ earlier ∧ j ≠ first := by
    intro earlier later j hsplit hne
    have hmem : first ∈ earlier := by
      rw [hsplit, List.head?_append_of_ne_nil _ hne] at hfirst
      exact List.mem_of_head? hfirst
    refine ⟨hmem, fun heq => ?_⟩
    rw [hsplit] at hnodup
    exact List.disjoint_of_nodup_append hnodup hmem
      (heq ▸ List.mem_cons_self)
  constructor
  · intro heq
    refine ⟨List.pairwise_iff_forall_sublist.mpr fun {e j} hsub hj => ?_, ?_⟩
    · by_contra hlate
      obtain ⟨r₁, r₂, hids, he, hrest⟩ := List.cons_sublist_iff.mp hsub
      obtain ⟨before, later, hr₂⟩ :=
        List.append_of_mem (List.singleton_sublist.mp hrest)
      have hsplit : ids = (r₁ ++ before) ++ j :: later := by
        rw [hids, hr₂, List.append_assoc]
      have he : e ∈ r₁ ++ before := List.mem_append_left _ he
      have hne := List.ne_nil_of_mem he
      have hlost := (lost_iff_late hsplit hnodup hne).mpr ⟨e, he, by omega⟩
      have hbelow := hle e (by rw [hsplit]; exact List.mem_append_left _ he)
      have hnotfirst := (hbehind hsplit hne).2
      have hmem : j ∈ (Finset.Ioo first highest).filter fun j => Lost ids j :=
        Finset.mem_filter.mpr ⟨Finset.mem_Ioo.mpr (by omega), hlost⟩
      rw [heq, Finset.mem_sdiff, List.mem_toFinset] at hmem
      exact hmem.2 (by rw [hsplit]; simp)
    · intro j hlow hbelow
      by_contra hnot
      have hfirstle := hle first hfirstmem
      have hmem : j ∈ Finset.Icc lowest highest \ ids.toFinset :=
        Finset.mem_sdiff.mpr ⟨Finset.mem_Icc.mpr (by omega),
          fun h => hnot (List.mem_toFinset.mp h)⟩
      rw [← heq, Finset.mem_filter, Finset.mem_Ioo] at hmem
      omega
  · rintro ⟨hinwindow, hfull⟩
    ext j
    rw [Finset.mem_filter, Finset.mem_sdiff, Finset.mem_Ioo, Finset.mem_Icc,
      List.mem_toFinset]
    constructor
    · rintro ⟨⟨hgt, hlt⟩, hlost⟩
      have hlowestle := hge first hfirstmem
      refine ⟨⟨by omega, hlt.le⟩, fun hmem => ?_⟩
      obtain ⟨earlier, later, hsplit⟩ := List.append_of_mem hmem
      have hne : earlier ≠ [] := by
        rintro rfl
        rw [hsplit] at hfirst
        exact hgt.ne' (Option.some.inj hfirst)
      obtain ⟨higher, hhigher, hlate⟩ :=
        (lost_iff_late hsplit hnodup hne).mp hlost
      rw [WithinWindowFrom, hsplit] at hinwindow
      have hrecent := (List.pairwise_append.mp hinwindow).2.2 higher hhigher j
        List.mem_cons_self hgt.le
      omega
    · rintro ⟨⟨hlow, hhigh⟩, hnot⟩
      have hnothighest : j ≠ highest := fun heq => hnot (heq ▸ hmax)
      have hnotfirst : j ≠ first := fun heq => hnot (heq ▸ hfirstmem)
      have hnotbelow : ¬ j < first := fun hlt => hnot (hfull j hlow hlt)
      exact ⟨by omega, lost_of_notMem hnot⟩

/-- The ids of the range, received or not. -/
theorem card_range (hlowest : ids.min? = some lowest)
    (hhighest : ids.max? = some highest) :
    ids.toFinset.card + (Finset.Icc lowest highest \ ids.toFinset).card
      = highest - lowest + 1 := by
  obtain ⟨hmax, hle⟩ := List.max?_eq_some_iff.mp hhighest
  obtain ⟨-, hge⟩ := List.min?_eq_some_iff.mp hlowest
  have hsubset : ids.toFinset ⊆ Finset.Icc lowest highest := fun j hj =>
    Finset.mem_Icc.mpr ⟨hge j (List.mem_toFinset.mp hj),
      hle j (List.mem_toFinset.mp hj)⟩
  have hcard := Finset.card_sdiff_add_card_eq_card hsubset
  have hlow := hge highest hmax
  rw [Nat.card_Icc] at hcard
  omega

end

/-- Every packet from the lowest id received to the highest one is counted
exactly once, as received or as lost, if and only if no id comes twice,
none from the first one on comes after an id 1000 or more larger, and none
between the lowest and the first one is missing. -/
theorem expectedPacketCount_iff (m : MetricsCollector) (now : TimePoint)
    (calls : List Call) :
    Conserves ((m.sinceReset calls).getSnapshot now) (m.countedLost calls)
        (sequenceIds calls)
      ↔ (sequenceIds calls).Nodup ∧ ∀ first ∈ (sequenceIds calls).head?,
        WithinWindowFrom first (sequenceIds calls)
          ∧ ∀ lowest ∈ (sequenceIds calls).min?,
            ∀ j, lowest ≤ j → j < first → j ∈ sequenceIds calls := by
  have hcount : ((m.sinceReset calls).getSnapshot now).totalReceivedCount
      = (sequenceIds calls).length := m.sinceReset_totalReceivedCount calls
  have hrate := (m.sinceReset calls).lossRate_eq now
  rcases hfirst : (sequenceIds calls).head? with _ | first
  · have hnil := List.head?_eq_none_iff.mp hfirst
    rw [hnil]
    exact iff_of_true (fun _ hlowest => by cases hlowest)
      ⟨List.nodup_nil, fun _ h => by cases h⟩
  obtain ⟨lowest, hlowest⟩ : ∃ lowest, (sequenceIds calls).min? = some lowest :=
    Option.ne_none_iff_exists'.mp fun hnone => by
      rw [List.min?_eq_none_iff.mp hnone] at hfirst
      cases hfirst
  obtain ⟨highest, hhighest⟩ :
      ∃ highest, (sequenceIds calls).max? = some highest :=
    Option.ne_none_iff_exists'.mp fun hnone => by
      rw [List.max?_eq_none_iff.mp hnone] at hfirst
      cases hfirst
  obtain ⟨hlost, hloss⟩ := m.countedLost_eq hfirst hhighest
  have hloss : ((m.sinceReset calls).getSnapshot now).lossCount
      = (m.countedLost calls).card := hloss
  rw [Conserves, hlowest, hhighest]
  simp only [Option.mem_def, Option.some.injEq, forall_eq']
  constructor
  · intro h
    have hnodup : (sequenceIds calls).Nodup :=
      Multiset.toFinset_card_eq_card_iff_nodup.mp
        (h.received.symm.trans hcount)
    exact ⟨hnodup, (lost_eq_iff hnodup hfirst hlowest hhighest).mp
      (hlost.symm.trans h.lostIds)⟩
  · rintro ⟨hnodup, hcond⟩
    have hids := hlost.trans
      ((lost_eq_iff hnodup hfirst hlowest hhighest).mpr hcond)
    have hreceived := hcount.trans (List.toFinset_card_of_nodup hnodup).symm
    have htotal : ((m.sinceReset calls).getSnapshot now).totalReceivedCount
        + ((m.sinceReset calls).getSnapshot now).lossCount
          = highest - lowest + 1 := by
      rw [hreceived, hloss, hids]
      exact card_range hlowest hhighest
    exact ⟨hreceived, hids, hloss, htotal, by rw [hrate, htotal]⟩

/-- A duplicate, an id below the first one, an id that was confirmed as
lost before it came, and a duplicate that makes up for a missing one. -/
theorem expectedPacketCount_off :
    let counted ids := Conserves ((sinceReset {} (arrivals ids)).getSnapshot 0)
      (countedLost {} (arrivals ids)) ids
    ¬ counted [1, 2, 2] ∧ ¬ counted [3, 1] ∧ ¬ counted [1, 3, 1003, 2]
      ∧ ¬ counted [3, 1, 1] := by
  refine ⟨fun h => ?_, fun h => ?_, fun h => ?_, fun h => ?_⟩
  · exact absurd (h 1 rfl 2 rfl).received (by decide)
  · exact absurd (h 1 rfl 3 rfl).total (by decide)
  · have hfirst : (sequenceIds (arrivals [1, 3, 1003, 2])).head? = some 1 :=
      rfl
    have hhighest : (sequenceIds (arrivals [1, 3, 1003, 2])).max?
        = some 1003 := rfl
    have hlost := (countedLost_eq {} hfirst hhighest).1
    rw [(h 1 rfl 1003 rfl).lostIds, sequenceIds_arrivals] at hlost
    have hmem : 2 ∈ (Finset.Ioo 1 1003).filter
        fun j => Lost [1, 3, 1003, 2] j :=
      Finset.mem_filter.mpr ⟨Finset.mem_Ioo.mpr (by omega), by decide⟩
    rw [← hlost, Finset.mem_sdiff, List.mem_toFinset] at hmem
    exact hmem.2 (by decide)
  · exact absurd (h 1 rfl 3 rfl).received (by decide)

end MetricsCollector

end NetworkControl
