import NetworkControl.MetricsCollector

/-!
# What received and lost packets add up to

Runs of `MetricsCollector` since a `Reset`. `OnPacketReceived` counts an
arrival as received before it knows its kind, and the loss counters speak
of the ids above the first one only. So an arrival that finds its id
neither above the highest one nor among the missing ones is counted on
top of everything else:

- a repeated id,
- an id below the first one,
- an id that comes after one 1000 or more above it, when it has already
  been confirmed as lost.

`Balanced` is the invariant: received and lost packets are the ids from
the first one to the highest one, and these arrivals. From it comes the
exact condition under which the order of arrival does not matter
(`reordering_loss_iff`).
-/

namespace NetworkControl

namespace MetricsCollector

/-! ## Runs since the last Reset -/

/-- The calls between two `Reset`s, with the clock readings they take.
`GetSnapshot` changes nothing. -/
inductive Call where
  | onPacketReceived (receivedTime : TimePoint)
      (nowMicroseconds sequenceId sendTimestampMicroseconds : Nat)
  | setExpectedDataRate (dataRate : DataRate)
  | onPlay (now : TimePoint)
  | onPause (now : TimePoint)

def Call.apply (m : MetricsCollector) : Call → MetricsCollector
  | .onPacketReceived receivedTime nowMicroseconds sequenceId sendTimestamp =>
      m.onPacketReceived receivedTime nowMicroseconds sequenceId sendTimestamp
  | .setExpectedDataRate dataRate => m.setExpectedDataRate dataRate
  | .onPlay now => m.onPlay now
  | .onPause now => m.onPause now

def Call.sequenceId? : Call → Option Nat
  | .onPacketReceived _ _ sequenceId _ => some sequenceId
  | .setExpectedDataRate _ | .onPlay _ | .onPause _ => none

/-- The ids passed to `OnPacketReceived`, in order of arrival. -/
def sequenceIds (calls : List Call) : List Nat :=
  calls.filterMap Call.sequenceId?

def sinceReset (m : MetricsCollector) (calls : List Call) :
    MetricsCollector :=
  calls.foldl Call.apply m.reset

section

variable (m : MetricsCollector) (receivedTime : TimePoint)
  (nowMicroseconds sequenceId sendTimestamp : Nat)

theorem countReceived_totalReceivedCount :
    (m.countReceived nowMicroseconds sendTimestamp).totalReceivedCount
      = m.totalReceivedCount + 1 := by
  rw [countReceived, recordLatency]
  split <;> rfl

theorem recordReceiveInterval_totalReceivedCount :
    (m.recordReceiveInterval receivedTime sequenceId).totalReceivedCount
      = m.totalReceivedCount := by
  simp only [recordReceiveInterval]
  split_ifs <;> rfl

theorem expireStale_totalReceivedCount :
    (m.expireStaleMissingSequenceIds sequenceId).totalReceivedCount
      = m.totalReceivedCount := by
  unfold expireStaleMissingSequenceIds
  split <;> rfl

theorem onPacketReceived_totalReceivedCount :
    (m.onPacketReceived receivedTime nowMicroseconds sequenceId
      sendTimestamp).totalReceivedCount = m.totalReceivedCount + 1 := by
  have hcount :=
    m.countReceived_totalReceivedCount nowMicroseconds sendTimestamp
  unfold onPacketReceived
  dsimp only
  split
  · exact hcount
  · split
    · rw [expireStale_totalReceivedCount]
      exact (recordReceiveInterval_totalReceivedCount _ _ _).trans hcount
    · split
      · exact hcount
      · exact hcount

end

theorem Call.apply_received (m : MetricsCollector) (call : Call) :
    (call.apply m).received
      = call.sequenceId?.toList.foldl Received.record m.received := by
  cases call with
  | onPacketReceived receivedTime nowMicroseconds sequenceId sendTimestamp =>
      exact onPacketReceived_received m _ _ _ _
  | setExpectedDataRate dataRate => rfl
  | onPlay now => exact m.onPlay_received now
  | onPause now => exact m.onPause_received now

theorem Call.apply_totalReceivedCount (m : MetricsCollector) (call : Call) :
    (call.apply m).totalReceivedCount
      = m.totalReceivedCount + call.sequenceId?.toList.length := by
  cases call with
  | onPacketReceived receivedTime nowMicroseconds sequenceId sendTimestamp =>
      exact onPacketReceived_totalReceivedCount m _ _ _ _
  | setExpectedDataRate dataRate => rfl
  | onPlay now =>
      rw [Call.apply, MetricsCollector.onPlay]
      split <;> rfl
  | onPause now =>
      rw [Call.apply, MetricsCollector.onPause]
      split <;> rfl

theorem sequenceIds_cons (call : Call) (calls : List Call) :
    sequenceIds (call :: calls)
      = call.sequenceId?.toList ++ sequenceIds calls := by
  rw [sequenceIds, List.filterMap_cons]
  cases call.sequenceId? <;> rfl

/-- A run's effect on the received part depends on its ids alone. -/
theorem foldl_received (calls : List Call) :
    ∀ m : MetricsCollector, (calls.foldl Call.apply m).received
      = (sequenceIds calls).foldl Received.record m.received := by
  induction calls with
  | nil => exact fun m => rfl
  | cons call calls ih =>
      intro m
      rw [List.foldl_cons, ih, Call.apply_received, sequenceIds_cons,
        List.foldl_append]

theorem foldl_totalReceivedCount (calls : List Call) :
    ∀ m : MetricsCollector, (calls.foldl Call.apply m).totalReceivedCount
      = m.totalReceivedCount + (sequenceIds calls).length := by
  induction calls with
  | nil => exact fun m => rfl
  | cons call calls ih =>
      intro m
      rw [List.foldl_cons, ih, Call.apply_totalReceivedCount,
        sequenceIds_cons, List.length_append, Nat.add_assoc]

/-- `TotalReceivedCount` is the number of arrivals, whatever they are. -/
theorem sinceReset_totalReceivedCount (m : MetricsCollector)
    (calls : List Call) :
    (m.sinceReset calls).totalReceivedCount = (sequenceIds calls).length := by
  rw [sinceReset, foldl_totalReceivedCount]
  exact Nat.zero_add _

/-- Nothing received yet. -/
def Received.none : Received where
  hasReceivedPacket := false
  highestSequenceId := 0
  missingSequenceIds := ∅
  confirmedLostCount := 0

theorem sinceReset_received (m : MetricsCollector) (calls : List Call) :
    (m.sinceReset calls).received
      = (sequenceIds calls).foldl Received.record Received.none :=
  foldl_received calls m.reset

/-- The loss counters are part of the received part. -/
def Received.lost (r : Received) : Nat :=
  r.confirmedLostCount + r.missingSequenceIds.card

theorem lossCount_eq_received (m : MetricsCollector) :
    m.lossCount = m.received.lost := rfl

/-- Expiry moves ids from one loss counter to the other. -/
theorem Received.record_newer_lost {r : Received} {id : Nat}
    (h : r.hasReceivedPacket = true) (hgt : id > r.highestSequenceId) :
    (r.record id).lost = r.confirmedLostCount
      + (r.missingSequenceIds ∪ Finset.Ioo r.highestSequenceId id).card := by
  have hsplit := Finset.card_filter_add_card_filter_not
    (s := r.missingSequenceIds ∪ Finset.Ioo r.highestSequenceId id)
    (fun j => id ≤ missingSequenceWindow ∨ id - missingSequenceWindow < j)
  have hnot : ∀ j, (¬ (id ≤ missingSequenceWindow
      ∨ id - missingSequenceWindow < j)) ↔
        (missingSequenceWindow < id ∧ j ≤ id - missingSequenceWindow) := by
    intro j
    omega
  simp only [hnot] at hsplit
  rw [Received.record_newer h hgt, Received.lost]
  dsimp only
  omega

/-! ## Arrivals counted on top -/

/-- After `earlier`, the arrival `id` is counted as received although it is
neither a new highest id nor one of the missing ones. -/
def Surplus (earlier : List Nat) (id : Nat) : Prop :=
  id ∈ earlier ∨ (∃ first ∈ earlier.head?, id < first)
    ∨ ∃ higher ∈ earlier, id + missingSequenceWindow ≤ higher

instance (earlier : List Nat) (id : Nat) : Decidable (Surplus earlier id) :=
  inferInstanceAs (Decidable (_ ∨ _ ∨ _))

/-- How many of the arrivals `ids` are surplus when they come after
`earlier`. -/
def surplusAfter : List Nat → List Nat → Nat
  | _, [] => 0
  | earlier, id :: ids =>
      (if Surplus earlier id then 1 else 0) + surplusAfter (earlier ++ [id]) ids

/-- The first id, the highest id and the missing ones are what `ids` says,
and the counters add up but for `surplus` arrivals. -/
structure Received.Balanced (r : Received) (ids : List Nat)
    (first surplus : Nat) : Prop where
  received : r.hasReceivedPacket = true
  head : ids.head? = some first
  highest_mem : r.highestSequenceId ∈ ids
  le_highest : ∀ id ∈ ids, id ≤ r.highestSequenceId
  missing : ∀ id, id ∈ r.missingSequenceIds ↔
    first < id ∧ id < r.highestSequenceId ∧ id ∉ ids
      ∧ r.highestSequenceId < id + missingSequenceWindow
  total : ids.length + r.lost
    = r.highestSequenceId - first + 1 + surplus

theorem Received.balanced_first (id : Nat) :
    (Received.none.record id).Balanced [id] id 0 := by
  rw [record_first rfl]
  refine ⟨rfl, rfl, List.mem_singleton.mpr rfl, ?_, ?_, ?_⟩
  · intro j hj
    exact (List.mem_singleton.mp hj).le
  · intro j
    show j ∈ (∅ : Finset Nat) ↔ id < j ∧ j < id ∧ _
    simp only [Finset.notMem_empty, false_iff]
    omega
  · show 1 + (0 + (∅ : Finset Nat).card) = id - id + 1 + 0
    rw [Finset.card_empty]
    omega

namespace Received.Balanced

variable {r : Received} {ids : List Nat} {first surplus id : Nat}

theorem first_mem (h : r.Balanced ids first surplus) : first ∈ ids :=
  List.mem_of_head? h.head

theorem head_append (h : r.Balanced ids first surplus) (id : Nat) :
    (ids ++ [id]).head? = some first := by
  rw [List.head?_append, h.head]
  rfl

/-- A missing id is one whose arrival would not be surplus. -/
theorem mem_missing_iff (h : r.Balanced ids first surplus)
    (hle : id ≤ r.highestSequenceId) :
    id ∈ r.missingSequenceIds ↔ ¬ Surplus ids id := by
  have hhighest := h.highest_mem
  have hfirst := h.first_mem
  rw [h.missing, Surplus, h.head]
  constructor
  · rintro ⟨hlt, hgt, hmem, hrecent⟩ (hold | ⟨j, hj, hbelow⟩ | ⟨j, hj, hlate⟩)
    · exact hmem hold
    · obtain rfl := Option.some.inj hj
      omega
    · have := h.le_highest j hj
      omega
  · intro hcounted
    rw [not_or, not_or] at hcounted
    obtain ⟨hmem, hbelow, hlate⟩ := hcounted
    have hne : id ≠ first := fun he => hmem (he ▸ hfirst)
    have hne' : id ≠ r.highestSequenceId := fun he => hmem (he ▸ hhighest)
    have hge : ¬ id < first := fun hlt => hbelow ⟨first, rfl, hlt⟩
    have hrecent : ¬ id + missingSequenceWindow ≤ r.highestSequenceId :=
      fun hle => hlate ⟨_, hhighest, hle⟩
    exact ⟨by omega, by omega, hmem, by omega⟩

/-- Nothing that comes after the highest id so far is surplus. -/
theorem not_surplus_newer (h : r.Balanced ids first surplus)
    (hnewer : id > r.highestSequenceId) : ¬ Surplus ids id := by
  rintro (hold | ⟨j, hj, hbelow⟩ | ⟨j, hj, hlate⟩)
  · have := h.le_highest id hold
    omega
  · have := h.le_highest j (List.mem_of_head? hj)
    omega
  · have := h.le_highest j hj
    omega

/-- The gap up to a new highest id becomes missing; what is too old by now
is confirmed as lost, which leaves the sum as it is. -/
theorem record_newer (h : r.Balanced ids first surplus)
    (hnewer : id > r.highestSequenceId) :
    (r.record id).Balanced (ids ++ [id]) first surplus := by
  have hfirst := h.le_highest first h.first_mem
  have hold : ∀ j, j ∈ ids → j ≤ r.highestSequenceId := h.le_highest
  have hlost := Received.record_newer_lost h.received hnewer
  rw [Received.record_newer h.received hnewer] at hlost ⊢
  refine ⟨h.received, h.head_append id, by simp, ?_, ?_, ?_⟩
  · intro j hj
    rcases List.mem_append.mp hj with hj | hj
    · exact (hold j hj).trans hnewer.le
    · exact (List.mem_singleton.mp hj).le
  · intro j
    have hmem : j ∈ ids → j ≤ r.highestSequenceId := hold j
    have hhighest : j = r.highestSequenceId → j ∈ ids :=
      fun he => he ▸ h.highest_mem
    have hwindow : missingSequenceWindow = 1000 := rfl
    rw [Finset.mem_filter, Finset.mem_union, Finset.mem_Ioo, h.missing,
      List.mem_append, List.mem_singleton]
    by_cases hj : j ∈ ids
    · simp only [hj, true_or, not_true_eq_false, false_and, and_false,
        false_or, iff_false]
      have := hmem hj
      omega
    · simp only [hj, false_or, not_false_eq_true, true_and]
      have : j ≠ r.highestSequenceId := fun he => hj (hhighest he)
      omega
  · have hdisjoint : Disjoint r.missingSequenceIds
        (Finset.Ioo r.highestSequenceId id) := by
      rw [Finset.disjoint_left]
      intro j hmissing hgap
      have hbelow := ((h.missing j).mp hmissing).2.1
      have habove := (Finset.mem_Ioo.mp hgap).1
      omega
    rw [Finset.card_union_of_disjoint hdisjoint, Nat.card_Ioo] at hlost
    have htotal := h.total
    rw [List.length_append, List.length_singleton, hlost]
    unfold Received.lost at htotal
    dsimp only
    omega

/-- An arrival at or below the highest id fills a gap or is surplus. -/
theorem record_older (h : r.Balanced ids first surplus)
    (hle : id ≤ r.highestSequenceId) :
    (r.record id).Balanced (ids ++ [id]) first
      (surplus + if Surplus ids id then 1 else 0) := by
  have htotal := h.total
  have hmissing := h.mem_missing_iff hle
  rw [Received.record_older h.received hle]
  refine ⟨h.received, h.head_append id,
    List.mem_append_left _ h.highest_mem, ?_, ?_, ?_⟩
  · intro j hj
    rcases List.mem_append.mp hj with hj | hj
    · exact h.le_highest j hj
    · exact List.mem_singleton.mp hj ▸ hle
  · intro j
    rw [Finset.mem_erase, h.missing, List.mem_append, List.mem_singleton,
      not_or]
    tauto
  · rw [List.length_append, List.length_singleton]
    simp only [Received.lost] at htotal ⊢
    by_cases hcounted : id ∈ r.missingSequenceIds
    · have hcard := Finset.card_erase_add_one hcounted
      rw [if_neg (hmissing.mp hcounted)]
      omega
    · rw [Finset.erase_eq_of_notMem hcounted,
        if_pos (not_not.mp fun hs => hcounted (hmissing.mpr hs))]
      omega

theorem record (h : r.Balanced ids first surplus) (id : Nat) :
    (r.record id).Balanced (ids ++ [id]) first
      (surplus + if Surplus ids id then 1 else 0) := by
  rcases Nat.lt_or_ge r.highestSequenceId id with hnewer | hle
  · rw [if_neg (h.not_surplus_newer hnewer)]
    exact h.record_newer hnewer
  · exact h.record_older hle

theorem foldl (h : r.Balanced ids first surplus) (more : List Nat) :
    (more.foldl Received.record r).Balanced (ids ++ more) first
      (surplus + surplusAfter ids more) := by
  induction more generalizing r ids surplus with
  | nil =>
      rw [List.append_nil]
      exact h
  | cons id more ih =>
      have hrest := ih (h.record id)
      rw [List.append_assoc, List.singleton_append, Nat.add_assoc] at hrest
      exact hrest

end Received.Balanced

/-- What a run leaves, whatever came first. -/
theorem balanced_sinceReset (m : MetricsCollector) {calls : List Call}
    {first : Nat} {rest : List Nat} (hids : sequenceIds calls = first :: rest) :
    (m.sinceReset calls).received.Balanced (first :: rest) first
      (surplusAfter [first] rest) := by
  have h := (Received.balanced_first first).foldl rest
  rw [Nat.zero_add, List.singleton_append] at h
  rw [sinceReset_received, hids]
  exact h

theorem lossRate_eq (m : MetricsCollector) (now : TimePoint) :
    (m.getSnapshot now).lossRate
      = ((m.getSnapshot now).lossCount : ℚ)
        / (((m.getSnapshot now).totalReceivedCount
          + (m.getSnapshot now).lossCount : Nat) : ℚ) * 100 := by
  show (if m.totalReceivedCount + m.lossCount ≠ 0 then
    (m.lossCount : ℚ) / ((m.totalReceivedCount + m.lossCount : Nat) : ℚ) * 100
    else 0) = _
  split
  · rfl
  · rename_i hzero
    rw [not_not] at hzero
    show 0 = (m.lossCount : ℚ)
      / ((m.totalReceivedCount + m.lossCount : Nat) : ℚ) * 100
    rw [hzero, Nat.cast_zero, div_zero, zero_mul]

/-- The arrivals `ids`, all at time 0. -/
def arrivals (ids : List Nat) : List Call :=
  ids.map fun id => .onPacketReceived 0 0 id 0

theorem sequenceIds_arrivals (ids : List Nat) :
    sequenceIds (arrivals ids) = ids := by
  rw [sequenceIds, arrivals, List.filterMap_map]
  exact List.filterMap_some

/-! ## Reordering -/

/-- No id arrives after an id that is 1000 or more larger. -/
def WithinWindow (ids : List Nat) : Prop :=
  ids.Pairwise fun earlier later => earlier < later + missingSequenceWindow

instance (ids : List Nat) : Decidable (WithinWindow ids) :=
  inferInstanceAs (Decidable (ids.Pairwise _))

/-- Of distinct ids that stay within the window only those below the first
one are surplus. -/
theorem surplusAfter_withinWindow {first : Nat} (rest : List Nat) :
    ∀ earlier : List Nat, earlier.head? = some first →
      (earlier ++ rest).Nodup → WithinWindow (earlier ++ rest) →
        surplusAfter earlier rest = rest.countP (· < first) := by
  induction rest with
  | nil => exact fun _ _ _ _ => rfl
  | cons id rest ih =>
      intro earlier hhead hnodup hwindow
      have hsplit : earlier ++ id :: rest = earlier ++ [id] ++ rest := by
        rw [List.append_assoc, List.singleton_append]
      have hnew : id ∉ earlier := fun hold =>
        (List.disjoint_of_nodup_append hnodup) hold List.mem_cons_self
      have hrecent : ∀ higher ∈ earlier,
          higher < id + missingSequenceWindow := by
        intro higher hhigher
        exact (List.pairwise_append.mp hwindow).2.2 higher hhigher id
          List.mem_cons_self
      have hkind : Surplus earlier id ↔ id < first := by
        rw [Surplus, hhead]
        constructor
        · rintro (hold | ⟨j, hj, hbelow⟩ | ⟨higher, hhigher, hlate⟩)
          · exact absurd hold hnew
          · exact Option.some.inj hj ▸ hbelow
          · exact absurd (hrecent higher hhigher) (Nat.not_lt.mpr hlate)
        · exact fun hbelow => Or.inr (Or.inl ⟨first, rfl, hbelow⟩)
      have hrest := ih (earlier ++ [id])
        (by rw [List.head?_append, hhead]; rfl)
        (hsplit ▸ hnodup) (hsplit ▸ hwindow)
      rw [surplusAfter, hrest, List.countP_cons, Nat.add_comm]
      simp only [hkind, decide_eq_true_eq]

/-- Of distinct ids within the window, the lost ones are those above the
first id that are not received. -/
theorem lossCount_withinWindow (m : MetricsCollector) {calls : List Call}
    {first highest : Nat} {rest : List Nat}
    (hids : sequenceIds calls = first :: rest)
    (hnodup : (first :: rest).Nodup) (hwindow : WithinWindow (first :: rest))
    (hhighest : (first :: rest).max? = some highest) :
    (m.sinceReset calls).lossCount
        + ((first :: rest).toFinset.filter fun id => first ≤ id).card
      = highest - first + 1 := by
  have h := m.balanced_sinceReset hids
  have htotal := h.total
  have hmax : (first :: rest).max?
      = some (m.sinceReset calls).received.highestSequenceId :=
    List.max?_eq_some_iff.mpr ⟨h.highest_mem, h.le_highest⟩
  obtain rfl := Option.some.inj (hmax.symm.trans hhighest)
  have hsurplus := surplusAfter_withinWindow rest [first] rfl hnodup hwindow
  have hcount : (first :: rest).length
      = ((first :: rest).toFinset.filter fun id => first ≤ id).card
        + rest.countP (· < first) := by
    have hcard := Finset.card_filter_add_card_filter_not
      (s := (first :: rest).toFinset) (fun id => first ≤ id)
    have hbelow : ((first :: rest).toFinset.filter fun id => ¬ first ≤ id).card
        = rest.countP (· < first) := by
      rw [List.countP_eq_length_filter,
        ← List.toFinset_card_of_nodup
          ((List.nodup_cons.mp hnodup).2.filter _)]
      congr 1
      ext id
      simp only [Finset.mem_filter, List.mem_toFinset, List.mem_cons,
        List.mem_filter, decide_eq_true_eq]
      constructor
      · rintro ⟨rfl | hmem, hlt⟩
        · omega
        · exact ⟨hmem, by omega⟩
      · rintro ⟨hmem, hlt⟩
        exact ⟨Or.inr hmem, by omega⟩
    rw [List.toFinset_card_of_nodup hnodup] at hcard
    omega
  rw [lossCount_eq_received]
  omega

/-- Lowering the first id from `b` to `a` adds as many received ids as it
adds ids, if and only if every id in between was received. -/
theorem card_filter_ge_eq_iff {ids : Finset Nat} {a b : Nat} (hle : a ≤ b)
    (ha : a ∈ ids) :
    (ids.filter fun id => a ≤ id).card
        = (ids.filter fun id => b ≤ id).card + (b - a)
      ↔ ∀ id, a < id → id < b → id ∈ ids := by
  have hsplit : (ids.filter fun id => a ≤ id).card
      = (ids.filter fun id => b ≤ id).card + (ids ∩ Finset.Ico a b).card := by
    rw [← Finset.card_union_of_disjoint]
    · congr 1
      ext id
      simp only [Finset.mem_filter, Finset.mem_union, Finset.mem_inter,
        Finset.mem_Ico]
      by_cases hid : id ∈ ids
      · simp only [hid, true_and]
        omega
      · simp only [hid, false_and, or_self]
    · rw [Finset.disjoint_left]
      intro id hge hlt
      have habove := (Finset.mem_filter.mp hge).2
      have hbelow := (Finset.mem_Ico.mp (Finset.mem_inter.mp hlt).2).2
      omega
  have hcard : (Finset.Ico a b).card = b - a := Nat.card_Ico a b
  rw [hsplit, Nat.add_left_cancel_iff]
  constructor
  · intro hall id hgt hlt
    have heq : ids ∩ Finset.Ico a b = Finset.Ico a b :=
      Finset.eq_of_subset_of_card_le Finset.inter_subset_right
        (hcard.trans hall.symm).le
    have hmem : id ∈ ids ∩ Finset.Ico a b := by
      rw [heq]
      exact Finset.mem_Ico.mpr ⟨hgt.le, hlt⟩
    exact (Finset.mem_inter.mp hmem).1
  · intro hall
    rw [← hcard]
    congr 1
    refine Finset.inter_eq_right.mpr ?_
    intro id hid
    obtain ⟨hge, hlt⟩ := Finset.mem_Ico.mp hid
    rcases Nat.eq_or_lt_of_le hge with rfl | hgt
    · exact ha
    · exact hall id hgt hlt

/-- The two first ids and the ids between them. -/
def Between (a b id : Nat) : Prop :=
  (a < id ∧ id < b) ∨ (b < id ∧ id < a)

theorem between_all_iff {ids : Finset Nat} {a b highest lossA lossB : Nat}
    (ha : a ∈ ids) (hb : b ∈ ids) (hhighest : ∀ id ∈ ids, id ≤ highest)
    (hA : lossA + (ids.filter fun id => a ≤ id).card = highest - a + 1)
    (hB : lossB + (ids.filter fun id => b ≤ id).card = highest - b + 1) :
    lossA = lossB ↔ ∀ id, Between a b id → id ∈ ids := by
  have hale := hhighest a ha
  have hble := hhighest b hb
  rcases Nat.le_total a b with hle | hle
  · have hiff := card_filter_ge_eq_iff hle ha
    constructor
    · rintro hloss id (⟨hgt, hlt⟩ | ⟨hgt, hlt⟩)
      · exact hiff.mp (by omega) id hgt hlt
      · omega
    · intro hall
      have hcard := hiff.mpr fun id hgt hlt => hall id (Or.inl ⟨hgt, hlt⟩)
      omega
  · have hiff := card_filter_ge_eq_iff hle hb
    constructor
    · rintro hloss id (⟨hgt, hlt⟩ | ⟨hgt, hlt⟩)
      · omega
      · exact hiff.mp (by omega) id hgt hlt
    · intro hall
      have hcard := hiff.mpr fun id hgt hlt => hall id (Or.inr ⟨hgt, hlt⟩)
      omega

/-- Two orders of arrival with a first packet each. The highest id is the
same, so the losses differ by the span between the first ids. -/
theorem lossCount_reordered_iff (m₁ m₂ : MetricsCollector)
    {calls₁ calls₂ : List Call} {first₁ first₂ : Nat} {rest₁ rest₂ : List Nat}
    (hids₁ : sequenceIds calls₁ = first₁ :: rest₁)
    (hids₂ : sequenceIds calls₂ = first₂ :: rest₂)
    (hperm : (first₁ :: rest₁).Perm (first₂ :: rest₂))
    (hnodup : (first₁ :: rest₁).Nodup)
    (hwindow₁ : WithinWindow (first₁ :: rest₁))
    (hwindow₂ : WithinWindow (first₂ :: rest₂)) :
    (m₁.sinceReset calls₁).lossCount = (m₂.sinceReset calls₂).lossCount
      ↔ ∀ id, Between first₁ first₂ id → id ∈ first₁ :: rest₁ := by
  obtain ⟨highest, hhighest⟩ :
      ∃ highest, (first₁ :: rest₁).max? = some highest := ⟨_, rfl⟩
  have hmax := List.max?_eq_some_iff.mp hhighest
  have hhighest₂ : (first₂ :: rest₂).max? = some highest :=
    List.max?_eq_some_iff.mpr ⟨hperm.mem_iff.mp hmax.1,
      fun id hid => hmax.2 id (hperm.mem_iff.mpr hid)⟩
  have hset : (first₁ :: rest₁).toFinset = (first₂ :: rest₂).toFinset :=
    List.toFinset_eq_of_perm _ _ hperm
  have hloss₁ := m₁.lossCount_withinWindow hids₁ hnodup hwindow₁ hhighest
  have hloss₂ := m₂.lossCount_withinWindow hids₂
    (hperm.nodup_iff.mp hnodup) hwindow₂ hhighest₂
  rw [← hset] at hloss₂
  have hiff := between_all_iff
    (List.mem_toFinset.mpr List.mem_cons_self)
    (List.mem_toFinset.mpr (hperm.mem_iff.mpr List.mem_cons_self))
    (fun id hid => hmax.2 id (List.mem_toFinset.mp hid)) hloss₁ hloss₂
  rw [hiff]
  simp only [List.mem_toFinset]

/-- Two orders of arrival of the same distinct ids, both within the
window: as many are received, and as many lost if and only if no id
strictly between the two first arrivals is missing altogether. -/
theorem reordering_loss_iff (m₁ m₂ : MetricsCollector)
    (now₁ now₂ : TimePoint) (calls₁ calls₂ : List Call)
    (hperm : (sequenceIds calls₁).Perm (sequenceIds calls₂))
    (hnodup : (sequenceIds calls₁).Nodup)
    (hwindow₁ : WithinWindow (sequenceIds calls₁))
    (hwindow₂ : WithinWindow (sequenceIds calls₂)) :
    ((m₁.sinceReset calls₁).getSnapshot now₁).totalReceivedCount
        = ((m₂.sinceReset calls₂).getSnapshot now₂).totalReceivedCount
      ∧ (((m₁.sinceReset calls₁).getSnapshot now₁).lossCount
          = ((m₂.sinceReset calls₂).getSnapshot now₂).lossCount
        ↔ ∀ first₁ ∈ (sequenceIds calls₁).head?,
          ∀ first₂ ∈ (sequenceIds calls₂).head?,
            ∀ id, Between first₁ first₂ id → id ∈ sequenceIds calls₁) := by
  refine ⟨?_, ?_⟩
  · show (m₁.sinceReset calls₁).totalReceivedCount
      = (m₂.sinceReset calls₂).totalReceivedCount
    rw [sinceReset_totalReceivedCount, sinceReset_totalReceivedCount,
      hperm.length_eq]
  · show (m₁.sinceReset calls₁).lossCount = (m₂.sinceReset calls₂).lossCount
      ↔ _
    cases hids₁ : sequenceIds calls₁ with
    | nil =>
        have hids₂ : sequenceIds calls₂ = [] :=
          List.nil_perm.mp (hids₁ ▸ hperm)
        have hloss : (m₁.sinceReset calls₁).lossCount
            = (m₂.sinceReset calls₂).lossCount := by
          rw [lossCount_eq_received, lossCount_eq_received,
            sinceReset_received, sinceReset_received, hids₁, hids₂]
        exact iff_of_true hloss fun first hfirst => nomatch hfirst
    | cons first₁ rest₁ =>
        cases hids₂ : sequenceIds calls₂ with
        | nil =>
            rw [hids₁, hids₂] at hperm
            exact absurd hperm.symm (List.nil_perm.not.mpr (by simp))
        | cons first₂ rest₂ =>
            rw [hids₁] at hperm hnodup hwindow₁
            rw [hids₂] at hperm hwindow₂
            rw [m₁.lossCount_reordered_iff m₂ hids₁ hids₂ hperm hnodup
              hwindow₁ hwindow₂]
            simp only [List.head?_cons, Option.mem_def, Option.some.injEq,
              forall_eq']

/-- Ids 1, 2 and 4 with 2 and 1 swapped: nothing is missing in between. -/
theorem reordering_loss_swapped :
    ((sinceReset {} (arrivals [1, 2, 4])).getSnapshot 0).lossCount
      = ((sinceReset {} (arrivals [2, 1, 4])).getSnapshot 0).lossCount := by
  have h := reordering_loss_iff {} {} 0 0 (arrivals [1, 2, 4])
    (arrivals [2, 1, 4])
    (by rw [sequenceIds_arrivals, sequenceIds_arrivals]; decide)
    (by rw [sequenceIds_arrivals]; decide)
    (by rw [sequenceIds_arrivals]; decide)
    (by rw [sequenceIds_arrivals]; decide)
  refine h.2.mpr ?_
  rintro first₁ hfirst₁ first₂ hfirst₂ id hbetween
  obtain rfl : 1 = first₁ := Option.some.inj hfirst₁
  obtain rfl : 2 = first₂ := Option.some.inj hfirst₂
  rcases hbetween with ⟨hgt, hlt⟩ | ⟨hgt, hlt⟩
  · omega
  · omega

/-- Ids 1 and 3: when 3 comes first, 2 does not count as lost. -/
theorem reordering_loses_less :
    [1, 3].Perm [3, 1] ∧ [1, 3].Nodup
      ∧ WithinWindow [1, 3] ∧ WithinWindow [3, 1]
      ∧ ((sinceReset {} (arrivals [1, 3])).getSnapshot 0).lossCount = 1
      ∧ ((sinceReset {} (arrivals [3, 1])).getSnapshot 0).lossCount = 0 := by
  decide

end MetricsCollector

end NetworkControl
