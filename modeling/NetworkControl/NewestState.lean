import NetworkControl.UdpReceiver

/-!
# Which state the client shows

`ReceiveWorker` passes every batch on to `OnState`, which overwrites
whatever the entity had: the client shows the state that came last. It is
the newest one as well, unless a batch that comes late brings something
else than the newest one had: `newest_held_iff` is the exact condition on
the datagrams.

On the server's side `ApplyControlInput` looks at the sequence id and
drops an input that is older than the one applied last.
-/

namespace NetworkControl

open Endian

/-! ## What is shown of an entity -/

/-- Position, heading and velocity. -/
structure EntityMotion where
  positionX : FloatBits
  positionY : FloatBits
  heading : FloatBits
  velocityX : FloatBits
  velocityY : FloatBits
deriving DecidableEq, Repr

def EntityStateEntry.motion (entry : EntityStateEntry) : EntityMotion :=
  ⟨entry.positionX, entry.positionY, entry.heading, entry.velocityX,
    entry.velocityY⟩

def EntityInfo.motion (info : EntityInfo) : EntityMotion :=
  ⟨info.positionX, info.positionY, info.heading, info.velocityX,
    info.velocityY⟩

/-- What `entityWorld_` holds for an entity. -/
def EntityWorld.held (w : EntityWorld) (id : UInt32) : Option EntityMotion :=
  (w.entities.lookup id).map EntityInfo.motion

/-- What a batch says about an entity; the server lists each one once. -/
def EntityStateBatchPayload.stateOf (batch : EntityStateBatchPayload)
    (id : UInt32) : Option EntityMotion :=
  ((batch.entities.filter fun entry => entry.entityId = id).getLast?).map
    EntityStateEntry.motion

theorem EntityWorld.held_onState (w : EntityWorld) (entry : EntityStateEntry)
    (id : UInt32) :
    (w.onState entry).held id
      = if entry.entityId = id then some entry.motion else w.held id := by
  rw [held, onState]
  by_cases hid : entry.entityId = id
  · subst hid
    rw [if_pos rfl, AList.lookup_insert]
    rfl
  · rw [if_neg hid, AList.lookup_insert_ne fun h => hid h.symm]
    rfl

/-- After a batch, what it says; of the other entities, what was there. -/
theorem EntityWorld.held_batch (w : EntityWorld)
    (batch : EntityStateBatchPayload) (id : UInt32) :
    (batch.entities.foldl onState w).held id
      = (batch.stateOf id).or (w.held id) := by
  unfold EntityStateBatchPayload.stateOf
  induction batch.entities using List.reverseRecOn with
  | nil => rfl
  | append_singleton entries entry ih =>
      rw [List.foldl_concat, held_onState, ih, List.filter_append]
      by_cases hid : entry.entityId = id
      · simp [hid]
      · simp [hid]

/-! ## Runs of ReceiveWorker -/

/-- A datagram, and the clock when it is recorded. -/
abbrev Arrival := UdpReceiver.Clock × List UInt8

/-- An iteration of `ReceiveWorker`, down to the world. -/
def receiveArrival (host : ByteOrder) (client : UdpReceiver × EntityWorld)
    (arrival : Arrival) : UdpReceiver × EntityWorld :=
  let (receiver, entries) :=
    client.1.receiveWorkerStep host arrival.1 arrival.2
  (receiver, entries.foldl EntityWorld.onState client.2)

def receiveArrivals (host : ByteOrder) (client : UdpReceiver × EntityWorld)
    (arrivals : List Arrival) : UdpReceiver × EntityWorld :=
  arrivals.foldl (receiveArrival host) client

/-- The batches among the datagrams. -/
def delivered (host : ByteOrder) (arrivals : List Arrival) :
    List EntityStateBatchPayload :=
  arrivals.filterMap fun arrival => receiveDatagram host arrival.2

section

variable {host : ByteOrder} {client : UdpReceiver × EntityWorld}
  {arrivals earlier : List Arrival} {arrival : Arrival}
  {batch : EntityStateBatchPayload}

theorem receiveArrival_isActive :
    (receiveArrival host client arrival).1.isActive = client.1.isActive := by
  rw [receiveArrival, UdpReceiver.receiveWorkerStep]
  cases receiveDatagram host arrival.2 with
  | none => rfl
  | some batch =>
      dsimp only
      split <;> rfl

theorem receiveArrivals_isActive :
    (receiveArrivals host client arrivals).1.isActive
      = client.1.isActive := by
  induction arrivals using List.reverseRecOn with
  | nil => rfl
  | append_singleton arrivals arrival ih =>
      rw [receiveArrivals, List.foldl_concat, receiveArrival_isActive]
      exact ih

variable (earlier) in
theorem delivered_undecodable (h : receiveDatagram host arrival.2 = none) :
    delivered host (earlier ++ [arrival]) = delivered host earlier := by
  simp [delivered, h]

variable (earlier) in
theorem delivered_batch (h : receiveDatagram host arrival.2 = some batch) :
    delivered host (earlier ++ [arrival])
      = delivered host earlier ++ [batch] := by
  simp [delivered, h]

variable (client earlier) in
/-- A datagram that is no batch changes nothing. -/
theorem receiveArrivals_undecodable
    (h : receiveDatagram host arrival.2 = none) :
    (receiveArrivals host client (earlier ++ [arrival])).2
      = (receiveArrivals host client earlier).2 := by
  rw [receiveArrivals, List.foldl_concat, receiveArrival,
    UdpReceiver.receiveWorkerStep, h]
  rfl

variable (earlier) in
/-- A batch is passed on to `OnState`, whatever its sequence id. -/
theorem receiveArrivals_batch (hactive : client.1.isActive = true)
    (h : receiveDatagram host arrival.2 = some batch) :
    (receiveArrivals host client (earlier ++ [arrival])).2
      = batch.entities.foldl EntityWorld.onState
          (receiveArrivals host client earlier).2 := by
  have hstill : (receiveArrivals host client earlier).1.isActive = true :=
    receiveArrivals_isActive.trans hactive
  unfold receiveArrivals at hstill
  rw [receiveArrivals, List.foldl_concat, receiveArrival,
    UdpReceiver.receiveWorkerStep, h]
  simp [hstill, UdpReceiver.record, receiveArrivals]

/-! ## The newest batch -/

/-- Of the batches that contain the entity, the one with the greatest
sequence id. -/
structure IsNewest (batches : List EntityStateBatchPayload) (id : UInt32)
    (newest : EntityStateBatchPayload) : Prop where
  mem : newest ∈ batches
  contains : (newest.stateOf id).isSome = true
  le : ∀ batch ∈ batches, (batch.stateOf id).isSome = true →
    batch.sequenceId ≤ newest.sequenceId

/-- The world holds what the newest batch says of each entity. -/
def NewestHeld (w : EntityWorld) (batches : List EntityStateBatchPayload) :
    Prop :=
  ∀ id newest, IsNewest batches id newest → w.held id = newest.stateOf id

/-- Within an epoch a sequence id belongs to one packet. -/
def OneEpoch (batches : List EntityStateBatchPayload) : Prop :=
  ∀ b ∈ batches, ∀ c ∈ batches, b.sequenceId = c.sequenceId → b = c

instance (batches : List EntityStateBatchPayload) :
    Decidable (OneEpoch batches) :=
  inferInstanceAs (Decidable (∀ b ∈ batches, ∀ c ∈ batches, _))

/-- A batch that comes after a newer one says the same of the entity as
the newest one so far. -/
def StaleAgrees (host : ByteOrder) (arrivals : List Arrival) : Prop :=
  ∀ earlier arrival, earlier ++ [arrival] <+: arrivals →
    ∀ batch, receiveDatagram host arrival.2 = some batch →
      ∀ id newest, IsNewest (delivered host earlier) id newest →
        (batch.stateOf id).isSome = true →
          batch.sequenceId < newest.sequenceId →
            batch.stateOf id = newest.stateOf id

theorem OneEpoch.of_prefix (h : OneEpoch (delivered host arrivals))
    (hearlier : earlier <+: arrivals) : OneEpoch (delivered host earlier) := by
  intro b hb c hc
  have hsub := (hearlier.filterMap
    fun arrival : Arrival => receiveDatagram host arrival.2).subset
  exact h b (hsub hb) c (hsub hc)

/-- An earlier batch stays the newest one after an older batch. -/
theorem IsNewest.append {batches : List EntityStateBatchPayload} {id : UInt32}
    {newest : EntityStateBatchPayload} (h : IsNewest batches id newest)
    (hle : batch.sequenceId ≤ newest.sequenceId) :
    IsNewest (batches ++ [batch]) id newest := by
  refine ⟨List.mem_append_left _ h.mem, h.contains, ?_⟩
  intro b hb hcontains
  rcases List.mem_append.mp hb with hold | hnew
  · exact h.le b hold hcontains
  · rw [List.mem_singleton.mp hnew]
    exact hle

/-- One more batch: the newest one is held again. -/
theorem NewestHeld.deliver {w : EntityWorld}
    {batches : List EntityStateBatchPayload} (h : NewestHeld w batches)
    (hepoch : OneEpoch (batches ++ [batch]))
    (hstale : ∀ id newest, IsNewest batches id newest →
      (batch.stateOf id).isSome = true →
        batch.sequenceId < newest.sequenceId →
          batch.stateOf id = newest.stateOf id) :
    NewestHeld (batch.entities.foldl EntityWorld.onState w)
      (batches ++ [batch]) := by
  intro id newest hnewest
  have hlast : batch ∈ batches ++ [batch] :=
    List.mem_append_right _ (List.mem_singleton.mpr rfl)
  have hearlier : newest ∈ batches → IsNewest batches id newest :=
    fun hmem => ⟨hmem, hnewest.contains,
      fun b hb => hnewest.le b (List.mem_append_left _ hb)⟩
  rw [EntityWorld.held_batch]
  rcases List.mem_append.mp hnewest.mem with hold | hnew
  · cases hstate : batch.stateOf id with
    | none => exact h id newest (hearlier hold)
    | some motion =>
        have hcontains : (batch.stateOf id).isSome = true :=
          Option.isSome_of_eq_some hstate
        have hle := hnewest.le batch hlast hcontains
        rw [Option.some_or, ← hstate]
        rcases UInt64.lt_or_eq_of_le hle with hlt | heq
        · exact hstale id newest (hearlier hold) hcontains hlt
        · rw [hepoch batch hlast newest hnewest.mem heq]
  · obtain rfl := List.mem_singleton.mp hnew
    obtain ⟨motion, hmotion⟩ := Option.isSome_iff_exists.mp hnewest.contains
    rw [hmotion]
    rfl

/-- After each datagram the newest state of every entity is held, if and
only if each batch that comes too late agrees with the newest one. -/
theorem newest_held_iff (hactive : client.1.isActive = true)
    (hepoch : OneEpoch (delivered host arrivals)) :
    (∀ earlier, earlier <+: arrivals →
      NewestHeld (receiveArrivals host client earlier).2
        (delivered host earlier))
    ↔ StaleAgrees host arrivals := by
  constructor
  · intro hall earlier arrival hearlier batch hbatch id newest hnewest
      hcontains hlt
    have hafter := hall _ hearlier
    rw [receiveArrivals_batch earlier hactive hbatch,
      delivered_batch earlier hbatch] at hafter
    have hheld := hafter id newest (hnewest.append (UInt64.le_of_lt hlt))
    obtain ⟨motion, hmotion⟩ := Option.isSome_iff_exists.mp hcontains
    rw [EntityWorld.held_batch, hmotion, Option.some_or] at hheld
    rw [hmotion]
    exact hheld
  · intro hstale earlier
    induction earlier using List.reverseRecOn with
    | nil =>
        intro hearlier id newest hnewest
        cases hnewest.mem
    | append_singleton earlier arrival ih =>
        intro hearlier
        have hbefore := ih ((List.prefix_append _ _).trans hearlier)
        cases hbatch : receiveDatagram host arrival.2 with
        | none =>
            rw [receiveArrivals_undecodable client earlier hbatch,
              delivered_undecodable earlier hbatch]
            exact hbefore
        | some batch =>
            have hepoch' := hepoch.of_prefix hearlier
            rw [delivered_batch earlier hbatch] at hepoch'
            rw [receiveArrivals_batch earlier hactive hbatch,
              delivered_batch earlier hbatch]
            exact NewestHeld.deliver hbefore hepoch'
              (hstale earlier arrival hearlier batch hbatch)

/-- Without reordering no batch comes too late. -/
theorem staleAgrees_of_increasing
    (h : (delivered host arrivals).Pairwise
      fun b c => b.sequenceId < c.sequenceId) : StaleAgrees host arrivals := by
  intro earlier arrival hearlier batch hbatch id newest hnewest _ hlt
  have hsub : (delivered host (earlier ++ [arrival])).Sublist
      (delivered host arrivals) := (hearlier.filterMap _).sublist
  have hpairwise := h.sublist hsub
  rw [delivered_batch earlier hbatch] at hpairwise
  have hafter := (List.pairwise_append.mp hpairwise).2.2 newest hnewest.mem
    batch (List.mem_singleton.mpr rfl)
  exact absurd hlt (UInt64.lt_asymm hafter)

end

/-! Two packets about entity 1, which moves along the x axis. -/

/-- Packet `sequenceId`, when the entity has come to `positionX`. -/
def movedTo (sequenceId : UInt64) (positionX : FloatBits) :
    EntityStateBatchPayload where
  sequenceId
  entities := [{ entityId := 1, positionX }]

def activeClient : UdpReceiver × EntityWorld :=
  ({ isActive := true }, {})

/-- The packets as datagrams. -/
def arrivalsOf (batches : List EntityStateBatchPayload) : List Arrival :=
  batches.map fun batch => (⟨0, 0⟩, entityStatePacket batch)

theorem delivered_arrivalsOf {host : ByteOrder}
    {batches : List EntityStateBatchPayload}
    (h : ∀ batch ∈ batches, batch.entities.length ≤ 84) :
    delivered host (arrivalsOf batches) = batches := by
  induction batches with
  | nil => rfl
  | cons batch batches ih =>
      have hrest := ih fun b hb => h b (List.mem_cons_of_mem _ hb)
      have hfirst := receiveDatagram_packet host (h batch List.mem_cons_self)
      rw [arrivalsOf, List.map_cons, delivered, List.filterMap_cons]
      dsimp only
      rw [hfirst]
      exact congrArg (batch :: ·) hrest

/-- In order, and with a packet lost in between. -/
theorem newest_held_in_order :
    NewestHeld (receiveArrivals .little activeClient
        (arrivalsOf [movedTo 1 10, movedTo 3 30])).2
      (delivered .little (arrivalsOf [movedTo 1 10, movedTo 3 30])) := by
  have hdelivered : delivered .little
      (arrivalsOf [movedTo 1 10, movedTo 3 30])
        = [movedTo 1 10, movedTo 3 30] := delivered_arrivalsOf (by decide)
  have hepoch : OneEpoch (delivered .little
      (arrivalsOf [movedTo 1 10, movedTo 3 30])) := by
    rw [hdelivered]
    decide
  refine (newest_held_iff rfl hepoch).mpr
    (staleAgrees_of_increasing ?_) _ (List.prefix_refl _)
  rw [hdelivered]
  decide

/-- Packet 1 is overtaken by packet 2 and undoes it. -/
theorem overtaken_state_held :
    OneEpoch (delivered .little (arrivalsOf [movedTo 2 20, movedTo 1 10]))
      ∧ (receiveArrivals .little activeClient
        (arrivalsOf [movedTo 2 20, movedTo 1 10])).2.held 1
        = (movedTo 1 10).stateOf 1
      ∧ ¬ NewestHeld (receiveArrivals .little activeClient
        (arrivalsOf [movedTo 2 20, movedTo 1 10])).2
        (delivered .little (arrivalsOf [movedTo 2 20, movedTo 1 10])) := by
  have hdelivered : delivered .little
      (arrivalsOf [movedTo 2 20, movedTo 1 10])
        = [movedTo 2 20, movedTo 1 10] := delivered_arrivalsOf (by decide)
  have hheld : (receiveArrivals .little activeClient
      (arrivalsOf [movedTo 2 20, movedTo 1 10])).2.held 1
        = (movedTo 1 10).stateOf 1 := by decide +kernel
  rw [hdelivered]
  refine ⟨by decide, hheld, ?_⟩
  intro h
  have hnewest : IsNewest [movedTo 2 20, movedTo 1 10] 1 (movedTo 2 20) :=
    ⟨List.mem_cons_self, rfl, by decide⟩
  have hwrong := hheld.symm.trans (h 1 _ hnewest)
  exact absurd hwrong (by decide)

end NetworkControl
