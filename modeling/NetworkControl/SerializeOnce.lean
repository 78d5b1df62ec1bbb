import NetworkControl.StreamingService

/-!
# Serialise once, send to many

`Worker` serialises a tick's batch once and, for each recipient, writes
its sequence id over the eight bytes behind the header. The reference is
the loop without that trick: for each recipient that is due, a payload of
its own, with its own next number, serialised from scratch
(`freshBatch`).

`serialize_once_eq_fresh` says that the two send the same bytes to the
same places, for any recipients and over any number of iterations, and
that each recipient's numbers are consecutive. Between iterations the
other threads may change everything of a session but its counter: that is
left to `Stop` and `Reset`.
-/

namespace NetworkControl

open Endian

/-! ## The reference -/

/-- What one recipient is sent. -/
structure FreshBatch where
  sessionId : UInt64
  destination : Ipv4Endpoint
  batch : EntityStateBatchPayload
deriving DecidableEq, Repr

def FreshBatch.send (host : ByteOrder) (fresh : FreshBatch) : Sent :=
  ⟨fresh.sessionId, fresh.destination, serializePacket host fresh.batch⟩

section

variable {F : Type} (host : ByteOrder) (inetPton : String → Option UInt32)
  (tickCount timestamp : UInt64)

/-- A payload of its own for `recipient`, if it is sent to in this tick. -/
def freshBatch (entries : List EntityStateEntry)
    (recipient : ClientSession F) : Option FreshBatch :=
  (recipientEndpoint inetPton tickCount recipient).map fun destination =>
    { sessionId := recipient.sessionId
      destination
      batch :=
        { sequenceId := recipient.getNextSequenceId.1
          timestamp
          entities := entries } }

/-- Only a recipient that is sent to takes a number. -/
def afterTick (recipient : ClientSession F) : ClientSession F :=
  match recipientEndpoint inetPton tickCount recipient with
  | none => recipient
  | some _ => recipient.getNextSequenceId.2

/-! ## One iteration -/

/-- A patched packet is the packet serialised with that number. -/
theorem patch_serializePacket (batch : EntityStateBatchPayload)
    (sequenceId : UInt64) :
    patchEntityStateSequenceId host (serializePacket host batch) sequenceId
      = serializePacket host { batch with sequenceId } := by
  rw [serializePacket_eq, serializePacket_eq, entityStatePacket,
    patchEntityStateSequenceId_batch]
  rfl

/-- Whatever number the shared buffer carries, the loop sends what the
reference sends. -/
theorem sendToRecipients_eq_fresh (entries : List EntityStateEntry) :
    ∀ (recipients : List (ClientSession F)) (sequenceId : UInt64),
      sendToRecipients host inetPton tickCount
          (serializePacket host { sequenceId, timestamp, entities := entries })
          recipients
        = (recipients.map (afterTick inetPton tickCount),
          (recipients.filterMap
            (freshBatch inetPton tickCount timestamp entries)).map
              (FreshBatch.send host))
  | [], _ => rfl
  | recipient :: recipients, sequenceId => by
      rw [sendToRecipients, List.map_cons]
      cases hendpoint : recipientEndpoint inetPton tickCount recipient with
      | none =>
          have hfresh : freshBatch inetPton tickCount timestamp entries
              recipient = none := by
            rw [freshBatch, hendpoint]
            rfl
          have hafter : afterTick inetPton tickCount recipient
              = recipient := by
            rw [afterTick, hendpoint]
          rw [List.filterMap_cons_none hfresh, hafter]
          dsimp only
          rw [sendToRecipients_eq_fresh entries recipients sequenceId]
      | some destination =>
          have hfresh : freshBatch inetPton tickCount timestamp entries
              recipient = some
                { sessionId := recipient.sessionId
                  destination
                  batch :=
                    { sequenceId := recipient.getNextSequenceId.1
                      timestamp
                      entities := entries } } := by
            rw [freshBatch, hendpoint]
            rfl
          have hafter : afterTick inetPton tickCount recipient
              = recipient.getNextSequenceId.2 := by
            rw [afterTick, hendpoint]
          rw [List.filterMap_cons_some hfresh, hafter]
          dsimp only
          rw [patch_serializePacket,
            sendToRecipients_eq_fresh entries recipients]
          rfl

/-- When nobody plays there is nobody to send to either. -/
theorem broadcast_eq_fresh [FloatArith F] (sessions : List (ClientSession F)) :
    broadcast host inetPton tickCount timestamp sessions
      = (sessions.map (afterTick inetPton tickCount),
        (sessions.filterMap (freshBatch inetPton tickCount timestamp
          (collectEntries sessions))).map (FreshBatch.send host)) := by
  unfold broadcast
  by_cases hnobody : (collectEntries sessions).isEmpty = true
  · rw [if_pos hnobody]
    rw [List.isEmpty_iff, collectEntries, List.map_eq_nil_iff,
      List.filter_eq_nil_iff] at hnobody
    have hnone : ∀ s ∈ sessions,
        recipientEndpoint inetPton tickCount s = none := by
      intro s hs
      rw [recipientEndpoint, if_pos]
      exact fun hplaying => hnobody s hs (decide_eq_true hplaying)
    have hafter : sessions.map (afterTick inetPton tickCount) = sessions := by
      refine (List.map_congr_left ?_).trans (List.map_id sessions)
      intro s hs
      rw [afterTick, hnone s hs]
      rfl
    have hfresh : sessions.filterMap (freshBatch inetPton tickCount timestamp
        (collectEntries sessions)) = [] := by
      rw [List.filterMap_eq_nil_iff]
      intro s hs
      rw [freshBatch, hnone s hs]
      rfl
    rw [hafter, hfresh]
    rfl
  · rw [if_neg hnobody]
    exact sendToRecipients_eq_fresh host inetPton tickCount timestamp
      (collectEntries sessions) sessions 0

end

/-! ## Runs

The counters are kept apart from the snapshots: a snapshot shows whatever
the other threads have made of a session, and the counter this thread has
left it with. -/

section

variable {F : Type} [FloatArith F] (host : ByteOrder)
  (inetPton : String → Option UInt32)

omit [FloatArith F] in
def withCounter (counters : UInt64 → UInt64) (session : ClientSession F) :
    ClientSession F :=
  { session with nextSequenceId := counters session.sessionId }

omit [FloatArith F] in
def countersAfter (counters : UInt64 → UInt64)
    (sessions : List (ClientSession F)) (id : UInt64) : UInt64 :=
  match sessions.find? fun session => session.sessionId = id with
  | some session => session.nextSequenceId
  | none => counters id

/-- The sends of each iteration. -/
def runStreaming : (UInt64 → UInt64) → UInt64 → List (Tick F) →
    List (List Sent)
  | _, _, [] => []
  | counters, tickCount, tick :: ticks =>
      let after := workerIteration host inetPton tickCount tick.elapsedTicks
        tick.timestamp (tick.sessions.map (withCounter counters))
      after.sent :: runStreaming (countersAfter counters after.sessions)
        after.tickCount ticks

/-- The sessions of a tick once their physics is done. -/
def steppedSessions (counters : UInt64 → UInt64) (tick : Tick F) :
    List (ClientSession F) :=
  (tick.sessions.map (withCounter counters)).map
    (stepElapsed tick.elapsedTicks)

def freshIteration (counters : UInt64 → UInt64) (tickCount : UInt64)
    (tick : Tick F) : List FreshBatch :=
  (steppedSessions counters tick).filterMap
    (freshBatch inetPton tickCount tick.timestamp
      (collectEntries (steppedSessions counters tick)))

/-- The number a session was last sent. -/
def lastSent (counters : UInt64 → UInt64) (batches : List FreshBatch)
    (id : UInt64) : UInt64 :=
  match batches.find? fun fresh => fresh.sessionId = id with
  | some fresh => fresh.batch.sequenceId
  | none => counters id

/-- As `runStreaming`, with a payload of its own for each recipient. -/
def runFresh : (UInt64 → UInt64) → UInt64 → List (Tick F) →
    List (List FreshBatch)
  | _, _, [] => []
  | counters, tickCount, tick :: ticks =>
      let tickCount := tickCount + tick.elapsedTicks
      let batches := freshIteration inetPton counters tickCount tick
      batches :: runFresh (lastSent counters batches) tickCount ticks

theorem steppedSessions_sessionIds (counters : UInt64 → UInt64)
    (tick : Tick F) :
    (steppedSessions counters tick).map ClientSession.sessionId
      = tick.sessions.map ClientSession.sessionId := by
  rw [steppedSessions, List.map_map, List.map_map]
  refine List.map_congr_left ?_
  intro s hs
  exact stepElapsed_keeps ClientSession.sessionId (fun _ => rfl) _ _

/-- Physics leaves the counters alone. -/
theorem steppedSessions_counter {counters : UInt64 → UInt64} {tick : Tick F}
    {s : ClientSession F} (hs : s ∈ steppedSessions counters tick) :
    s.nextSequenceId = counters s.sessionId := by
  obtain ⟨t, ht, rfl⟩ := List.mem_map.mp hs
  obtain ⟨u, hu, rfl⟩ := List.mem_map.mp ht
  rw [stepElapsed_keeps ClientSession.nextSequenceId (fun _ => rfl),
    stepElapsed_keeps ClientSession.sessionId (fun _ => rfl)]
  rfl

section

variable {inetPton} {tickCount timestamp : UInt64}
  {entries : List EntityStateEntry} {s : ClientSession F} {fresh : FreshBatch}

omit [FloatArith F] in
theorem freshBatch_sessionId
    (h : freshBatch inetPton tickCount timestamp entries s = some fresh) :
    fresh.sessionId = s.sessionId := by
  obtain ⟨destination, -, rfl⟩ := Option.map_eq_some_iff.mp h
  rfl

omit [FloatArith F] in
theorem freshBatch_sequenceId
    (h : freshBatch inetPton tickCount timestamp entries s = some fresh) :
    fresh.batch.sequenceId = s.nextSequenceId + 1 := by
  obtain ⟨destination, -, rfl⟩ := Option.map_eq_some_iff.mp h
  rfl

omit [FloatArith F] in
/-- A session's counter is the number it was last sent. -/
theorem afterTick_nextSequenceId (timestamp : UInt64)
    (entries : List EntityStateEntry) :
    (afterTick inetPton tickCount s).nextSequenceId
      = match freshBatch inetPton tickCount timestamp entries s with
        | some fresh => fresh.batch.sequenceId
        | none => s.nextSequenceId := by
  rw [afterTick, freshBatch]
  cases recipientEndpoint inetPton tickCount s <;> rfl

omit [FloatArith F] in
theorem afterTick_sessionId :
    (afterTick inetPton tickCount s).sessionId = s.sessionId := by
  unfold afterTick
  split <;> rfl

omit [FloatArith F] in
/-- Nobody of these sessions has that id, so no batch is for it. -/
theorem find?_freshBatch_none {sessions : List (ClientSession F)} {id : UInt64}
    (h : id ∉ sessions.map ClientSession.sessionId) :
    (sessions.filterMap (freshBatch inetPton tickCount timestamp
      entries)).find? (fun fresh => fresh.sessionId = id) = none := by
  rw [List.find?_eq_none]
  intro fresh hfresh hid
  obtain ⟨t, ht, hbatch⟩ := List.mem_filterMap.mp hfresh
  refine h ?_
  rw [← of_decide_eq_true hid, freshBatch_sessionId hbatch]
  exact List.mem_map_of_mem ht

omit [FloatArith F] in
/-- The sessions' own counters after the loop, read off the batches. -/
theorem countersAfter_eq_lastSent (inetPton : String → Option UInt32)
    (tickCount timestamp : UInt64) (entries : List EntityStateEntry)
    (counters : UInt64 → UInt64) :
    ∀ sessions : List (ClientSession F),
      (sessions.map ClientSession.sessionId).Nodup →
      (∀ s ∈ sessions, s.nextSequenceId = counters s.sessionId) →
        countersAfter counters (sessions.map (afterTick inetPton tickCount))
          = lastSent counters (sessions.filterMap
              (freshBatch inetPton tickCount timestamp entries))
  | [], _, _ => rfl
  | s :: sessions, hnodup, hcounters => by
      rw [List.map_cons, List.nodup_cons] at hnodup
      have ih := countersAfter_eq_lastSent inetPton tickCount timestamp
        entries counters sessions hnodup.2
        fun t ht => hcounters t (List.mem_cons_of_mem _ ht)
      have hs := hcounters s List.mem_cons_self
      funext id
      have ih' := congrFun ih id
      rw [countersAfter, lastSent] at ih' ⊢
      rw [List.map_cons, List.find?_cons, afterTick_sessionId]
      by_cases hid : s.sessionId = id
      · subst hid
        rw [decide_eq_true rfl]
        dsimp only
        rw [afterTick_nextSequenceId timestamp entries]
        cases hfresh : freshBatch inetPton tickCount timestamp entries s with
        | none =>
            rw [List.filterMap_cons_none hfresh,
              find?_freshBatch_none hnodup.1]
            exact hs
        | some fresh =>
            rw [List.filterMap_cons_some hfresh, List.find?_cons,
              freshBatch_sessionId hfresh, decide_eq_true rfl]
      · rw [decide_eq_false hid]
        cases hfresh : freshBatch inetPton tickCount timestamp entries s with
        | none =>
            rw [List.filterMap_cons_none hfresh]
            exact ih'
        | some fresh =>
            rw [List.filterMap_cons_some hfresh, List.find?_cons,
              freshBatch_sessionId hfresh, decide_eq_false hid]
            exact ih'

end

/-- Iteration by iteration the loop sends what the reference sends. -/
theorem runStreaming_eq_fresh : ∀ (ticks : List (Tick F))
    (counters : UInt64 → UInt64) (tickCount : UInt64),
    runStreaming host inetPton counters tickCount ticks
      = (runFresh inetPton counters tickCount ticks).map
          (·.map (FreshBatch.send host))
  | [], _, _ => rfl
  | tick :: ticks, counters, tickCount => by
      have hnodup : ((steppedSessions counters tick).map
          ClientSession.sessionId).Nodup := by
        rw [steppedSessions_sessionIds]
        exact tick.nodup
      have hcounters := countersAfter_eq_lastSent inetPton
        (tickCount + tick.elapsedTicks) tick.timestamp
        (collectEntries (steppedSessions counters tick)) counters _ hnodup
        fun s hs => steppedSessions_counter hs
      rw [runStreaming, runFresh, List.map_cons]
      simp only [workerIteration, broadcast_eq_fresh]
      rw [← steppedSessions, hcounters, runStreaming_eq_fresh ticks]
      rfl

/-! ## Consecutive numbers -/

/-- `ids` counts on from `last`. -/
def Consecutive : UInt64 → List UInt64 → Prop
  | _, [] => True
  | last, id :: ids => id = last + 1 ∧ Consecutive id ids

/-- The numbers session `id` is sent over a run. -/
def sequenceIdsTo (id : UInt64) (run : List (List FreshBatch)) :
    List UInt64 :=
  (run.flatten.filter fun fresh => fresh.sessionId = id).map
    (·.batch.sequenceId)

omit [FloatArith F] in
/-- A tick has at most one batch for a session. -/
theorem filter_freshBatch (tickCount timestamp : UInt64)
    (entries : List EntityStateEntry) (id : UInt64) :
    ∀ sessions : List (ClientSession F),
      (sessions.map ClientSession.sessionId).Nodup →
        (sessions.filterMap (freshBatch inetPton tickCount timestamp
            entries)).filter (fun fresh => fresh.sessionId = id)
          = ((sessions.filterMap (freshBatch inetPton tickCount timestamp
              entries)).find? fun fresh => fresh.sessionId = id).toList
  | [], _ => rfl
  | s :: sessions, hnodup => by
      rw [List.map_cons, List.nodup_cons] at hnodup
      have ih :=
        filter_freshBatch tickCount timestamp entries id sessions hnodup.2
      cases hfresh : freshBatch inetPton tickCount timestamp entries s with
      | none =>
          rw [List.filterMap_cons_none hfresh]
          exact ih
      | some fresh =>
          rw [List.filterMap_cons_some hfresh, List.filter_cons,
            List.find?_cons, freshBatch_sessionId hfresh, ih]
          by_cases hid : s.sessionId = id
          · subst hid
            rw [find?_freshBatch_none hnodup.1]
            simp
          · simp [hid]

theorem runFresh_consecutive (id : UInt64) : ∀ (ticks : List (Tick F))
    (counters : UInt64 → UInt64) (tickCount : UInt64),
    Consecutive (counters id)
      (sequenceIdsTo id (runFresh inetPton counters tickCount ticks))
  | [], _, _ => trivial
  | tick :: ticks, counters, tickCount => by
      have hnodup : ((steppedSessions counters tick).map
          ClientSession.sessionId).Nodup := by
        rw [steppedSessions_sessionIds]
        exact tick.nodup
      have hone := filter_freshBatch inetPton
        (tickCount + tick.elapsedTicks) tick.timestamp
        (collectEntries (steppedSessions counters tick)) id _ hnodup
      have ih := runFresh_consecutive id ticks
        (lastSent counters (freshIteration inetPton counters
          (tickCount + tick.elapsedTicks) tick))
        (tickCount + tick.elapsedTicks)
      unfold lastSent at ih
      rw [runFresh, sequenceIdsTo, List.flatten_cons, List.filter_append,
        List.map_append]
      rw [freshIteration, hone]
      unfold freshIteration at ih
      split at ih
      · rename_i fresh hfind
        have hmem := List.mem_of_find?_eq_some hfind
        obtain ⟨s, hs, hbatch⟩ := List.mem_filterMap.mp hmem
        have hid : fresh.sessionId = id := by
          simpa using List.find?_some hfind
        rw [hfind]
        refine ⟨?_, ih⟩
        show fresh.batch.sequenceId = counters id + 1
        rw [freshBatch_sequenceId hbatch, steppedSessions_counter hs,
          ← freshBatch_sessionId hbatch, hid]
      · rename_i hfind
        rw [hfind]
        exact ih

end

/-- The loop with the shared buffer sends to each recipient that is due the
bytes of a payload built and serialised for it alone: for any recipients
and entries, and over any number of iterations, in which each session's
numbers are consecutive. -/
theorem serialize_once_eq_fresh {F : Type} [FloatArith F] (host : ByteOrder)
    (inetPton : String → Option UInt32) :
    (∀ (tickCount timestamp sequenceId : UInt64)
        (entries : List EntityStateEntry) (recipients : List (ClientSession F)),
      sendToRecipients host inetPton tickCount
          (serializePacket host { sequenceId, timestamp, entities := entries })
          recipients
        = (recipients.map (afterTick inetPton tickCount),
          (recipients.filterMap
            (freshBatch inetPton tickCount timestamp entries)).map
              (FreshBatch.send host)))
    ∧ ∀ (counters : UInt64 → UInt64) (tickCount : UInt64)
        (ticks : List (Tick F)),
      runStreaming host inetPton counters tickCount ticks
          = (runFresh inetPton counters tickCount ticks).map
              (·.map (FreshBatch.send host))
        ∧ ∀ id, Consecutive (counters id)
          (sequenceIdsTo id (runFresh inetPton counters tickCount ticks)) := by
  refine ⟨?_, ?_⟩
  · intro tickCount timestamp sequenceId entries recipients
    exact sendToRecipients_eq_fresh host inetPton tickCount timestamp entries
      recipients sequenceId
  · intro counters tickCount ticks
    refine ⟨runStreaming_eq_fresh host inetPton ticks counters tickCount, ?_⟩
    exact fun id =>
      runFresh_consecutive inetPton id ticks counters tickCount

end NetworkControl
