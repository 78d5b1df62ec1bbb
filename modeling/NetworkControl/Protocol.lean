import NetworkControl.BinarySerializer

/-!
# The wire protocol

`Common/Protocol.h` and `Common/Protocol.cpp`: the message tags, the
payloads, and for each payload its `serialize*`/`tryDeserialize*` pair.
`float` and `double` fields are bit patterns throughout (nothing here
computes with them).

For every payload the bytes are named once (`*Bytes`), `serialize*_data`
says the writer appends exactly these, `tryDeserialize*_reads` says the
reader takes them back, and `*Bytes_length` that there are as many as the
declared `*PayloadSize`. Sender and receiver hosts may differ in byte
order.
-/

namespace NetworkControl

open Endian BinaryReader

/-! ## Tags and payloads -/

/-- `MessageType`; `unnamed` are the values a cast from `uint8_t` can
give beyond the last enumerator. -/
inductive MessageType where
  | registerUdpPort
  | play
  | pause
  | stop
  | reset
  | setRate
  | entityControlInput
  | entityState
  | entitySpawn
  | entityDespawn
  | unnamed (raw : UInt8) (h : 10 ≤ raw)
deriving DecidableEq, Repr

def MessageType.toUInt8 : MessageType → UInt8
  | .registerUdpPort => 0
  | .play => 1
  | .pause => 2
  | .stop => 3
  | .reset => 4
  | .setRate => 5
  | .entityControlInput => 6
  | .entityState => 7
  | .entitySpawn => 8
  | .entityDespawn => 9
  | .unnamed raw _ => raw

def MessageType.ofUInt8 (raw : UInt8) : MessageType :=
  if h : 10 ≤ raw then .unnamed raw h
  else if raw = 0 then .registerUdpPort
  else if raw = 1 then .play
  else if raw = 2 then .pause
  else if raw = 3 then .stop
  else if raw = 4 then .reset
  else if raw = 5 then .setRate
  else if raw = 6 then .entityControlInput
  else if raw = 7 then .entityState
  else if raw = 8 then .entitySpawn
  else .entityDespawn

@[simp] theorem MessageType.ofUInt8_toUInt8 (type : MessageType) :
    ofUInt8 type.toUInt8 = type := by
  cases type with
  | unnamed raw h => simp [ofUInt8, toUInt8, h]
  | _ => rfl

/-- `EntityType`, with the unnamed values a cast can give. -/
inductive EntityType where
  | playerHelicopter
  | unnamed (raw : UInt8) (h : 1 ≤ raw)
deriving DecidableEq, Repr

def EntityType.toUInt8 : EntityType → UInt8
  | .playerHelicopter => 0
  | .unnamed raw _ => raw

def EntityType.ofUInt8 (raw : UInt8) : EntityType :=
  if h : 1 ≤ raw then .unnamed raw h else .playerHelicopter

@[simp] theorem EntityType.ofUInt8_toUInt8 (type : EntityType) :
    ofUInt8 type.toUInt8 = type := by
  cases type with
  | unnamed raw h => simp [ofUInt8, toUInt8, h]
  | playerHelicopter => rfl

inductive DataRate where
  | hz30
  | hz60
deriving DecidableEq, Repr

def DataRate.toUInt32 : DataRate → UInt32
  | .hz30 => 30
  | .hz60 => 60

inductive SessionState where
  | stopped
  | playing
  | paused
deriving DecidableEq, Repr

structure RegisterUdpPortPayload where
  port : UInt16 := 0
deriving DecidableEq, Repr

structure SetRatePayload where
  dataRateHz : UInt32 := 0
deriving DecidableEq, Repr

structure EntityControlInputPayload where
  entityId : UInt32 := 0
  sequenceId : UInt32 := 0
  throttle : FloatBits := 0
  yaw : FloatBits := 0
deriving DecidableEq, Repr

structure EntityStateEntry where
  entityId : UInt32 := 0
  positionX : FloatBits := 0
  positionY : FloatBits := 0
  heading : FloatBits := 0
  velocityX : FloatBits := 0
  velocityY : FloatBits := 0
deriving DecidableEq, Repr

structure EntityStateBatchPayload where
  sequenceId : UInt64 := 0
  timestamp : UInt64 := 0
  entities : List EntityStateEntry := []
deriving DecidableEq, Repr

structure EntitySpawnPayload where
  entityId : UInt32 := 0
  type : EntityType := .playerHelicopter
  positionX : FloatBits := 0
  positionY : FloatBits := 0
  heading : FloatBits := 0
deriving DecidableEq, Repr

structure EntityDespawnPayload where
  entityId : UInt32 := 0
deriving DecidableEq, Repr

structure StopPayload where
  elapsedSeconds : DoubleBits := 0
  totalReceivedCount : UInt64 := 0
  lossCount : UInt64 := 0
  outOfOrderCount : UInt64 := 0
  lossRate : DoubleBits := 0
  intervalSampleCount : UInt64 := 0
  averageReceiveIntervalMilliseconds : DoubleBits := 0
  maxReceiveIntervalMilliseconds : DoubleBits := 0
  averageIntervalDeviationMilliseconds : DoubleBits := 0
  delayedPacketCount : UInt64 := 0
  delayedPacketRate : DoubleBits := 0
  latencySampleCount : UInt64 := 0
  averageLatencyMilliseconds : DoubleBits := 0
  minLatencyMilliseconds : DoubleBits := 0
  maxLatencyMilliseconds : DoubleBits := 0
deriving DecidableEq, Repr

/-! The `sizeof` sums of `Protocol.h`. -/

def registerUdpPortPayloadSize : Nat := 2
def setRatePayloadSize : Nat := 4
def entityControlInputPayloadSize : Nat := 4 * 2 + 4 * 2
def entityStateEntrySize : Nat := 4 + 4 * 5
def entitySpawnPayloadSize : Nat := 4 + 1 + 4 * 3
def entityDespawnPayloadSize : Nat := 4
def stopPayloadSize : Nat := 8 * 15

/-! ## Serialize and TryDeserialize -/

def serializeHeader (w : BinaryWriter) (type : MessageType) : BinaryWriter :=
  w.writeUInt8 type.toUInt8

def tryDeserializeHeader : Read MessageType := do
  let raw ← tryReadUInt8
  return MessageType.ofUInt8 raw

section

variable (host : ByteOrder)

def serializeRegisterUdpPort (w : BinaryWriter)
    (payload : RegisterUdpPortPayload) : BinaryWriter :=
  w.writeUInt16 host payload.port

def tryDeserializeRegisterUdpPort : Read RegisterUdpPortPayload := do
  let port ← tryReadUInt16 host
  return { port }

def serializeSetRate (w : BinaryWriter) (payload : SetRatePayload) :
    BinaryWriter :=
  w.writeUInt32 host payload.dataRateHz

def tryDeserializeSetRate : Read SetRatePayload := do
  let dataRateHz ← tryReadUInt32 host
  return { dataRateHz }

def serializeEntityControlInput (w : BinaryWriter)
    (payload : EntityControlInputPayload) : BinaryWriter :=
  w.writeUInt32 host payload.entityId
    |>.writeUInt32 host payload.sequenceId
    |>.writeFloat host payload.throttle
    |>.writeFloat host payload.yaw

def tryDeserializeEntityControlInput : Read EntityControlInputPayload := do
  let entityId ← tryReadUInt32 host
  let sequenceId ← tryReadUInt32 host
  let throttle ← tryReadFloat host
  let yaw ← tryReadFloat host
  return { entityId, sequenceId, throttle, yaw }

def serializeEntityStateEntry (w : BinaryWriter) (entry : EntityStateEntry) :
    BinaryWriter :=
  w.writeUInt32 host entry.entityId
    |>.writeFloat host entry.positionX
    |>.writeFloat host entry.positionY
    |>.writeFloat host entry.heading
    |>.writeFloat host entry.velocityX
    |>.writeFloat host entry.velocityY

def tryDeserializeEntityStateEntry : Read EntityStateEntry := do
  let entityId ← tryReadUInt32 host
  let positionX ← tryReadFloat host
  let positionY ← tryReadFloat host
  let heading ← tryReadFloat host
  let velocityX ← tryReadFloat host
  let velocityY ← tryReadFloat host
  return { entityId, positionX, positionY, heading, velocityX, velocityY }

/-- The count is a `uint16_t` cast of the list's size. -/
def serializeEntityStateBatch (w : BinaryWriter)
    (batch : EntityStateBatchPayload) : BinaryWriter :=
  batch.entities.foldl (serializeEntityStateEntry host)
    (w.writeUInt64 host batch.sequenceId
      |>.writeUInt64 host batch.timestamp
      |>.writeUInt16 host (UInt16.ofNat batch.entities.length))

/-- The loop of `TryDeserializeEntityStateBatch`: `count` entries. -/
def tryDeserializeEntries : Nat → Read (List EntityStateEntry)
  | 0 => return []
  | count + 1 => do
      let entry ← tryDeserializeEntityStateEntry host
      let entities ← tryDeserializeEntries count
      return entry :: entities

def tryDeserializeEntityStateBatch : Read EntityStateBatchPayload := do
  let sequenceId ← tryReadUInt64 host
  let timestamp ← tryReadUInt64 host
  let entityCount ← tryReadUInt16 host
  let entities ← tryDeserializeEntries host entityCount.toNat
  return { sequenceId, timestamp, entities }

def serializeEntitySpawn (w : BinaryWriter) (payload : EntitySpawnPayload) :
    BinaryWriter :=
  w.writeUInt32 host payload.entityId
    |>.writeUInt8 payload.type.toUInt8
    |>.writeFloat host payload.positionX
    |>.writeFloat host payload.positionY
    |>.writeFloat host payload.heading

def tryDeserializeEntitySpawn : Read EntitySpawnPayload := do
  let entityId ← tryReadUInt32 host
  let rawType ← tryReadUInt8
  let positionX ← tryReadFloat host
  let positionY ← tryReadFloat host
  let heading ← tryReadFloat host
  let type := EntityType.ofUInt8 rawType
  return { entityId, type, positionX, positionY, heading }

def serializeEntityDespawn (w : BinaryWriter)
    (payload : EntityDespawnPayload) : BinaryWriter :=
  w.writeUInt32 host payload.entityId

def tryDeserializeEntityDespawn : Read EntityDespawnPayload := do
  let entityId ← tryReadUInt32 host
  return { entityId }

def serializeStop (w : BinaryWriter) (payload : StopPayload) : BinaryWriter :=
  w.writeDouble host payload.elapsedSeconds
    |>.writeUInt64 host payload.totalReceivedCount
    |>.writeUInt64 host payload.lossCount
    |>.writeUInt64 host payload.outOfOrderCount
    |>.writeDouble host payload.lossRate
    |>.writeUInt64 host payload.intervalSampleCount
    |>.writeDouble host payload.averageReceiveIntervalMilliseconds
    |>.writeDouble host payload.maxReceiveIntervalMilliseconds
    |>.writeDouble host payload.averageIntervalDeviationMilliseconds
    |>.writeUInt64 host payload.delayedPacketCount
    |>.writeDouble host payload.delayedPacketRate
    |>.writeUInt64 host payload.latencySampleCount
    |>.writeDouble host payload.averageLatencyMilliseconds
    |>.writeDouble host payload.minLatencyMilliseconds
    |>.writeDouble host payload.maxLatencyMilliseconds

def tryDeserializeStop : Read StopPayload := do
  let elapsedSeconds ← tryReadDouble host
  let totalReceivedCount ← tryReadUInt64 host
  let lossCount ← tryReadUInt64 host
  let outOfOrderCount ← tryReadUInt64 host
  let lossRate ← tryReadDouble host
  let intervalSampleCount ← tryReadUInt64 host
  let averageReceiveIntervalMilliseconds ← tryReadDouble host
  let maxReceiveIntervalMilliseconds ← tryReadDouble host
  let averageIntervalDeviationMilliseconds ← tryReadDouble host
  let delayedPacketCount ← tryReadUInt64 host
  let delayedPacketRate ← tryReadDouble host
  let latencySampleCount ← tryReadUInt64 host
  let averageLatencyMilliseconds ← tryReadDouble host
  let minLatencyMilliseconds ← tryReadDouble host
  let maxLatencyMilliseconds ← tryReadDouble host
  return { elapsedSeconds, totalReceivedCount, lossCount, outOfOrderCount,
           lossRate, intervalSampleCount, averageReceiveIntervalMilliseconds,
           maxReceiveIntervalMilliseconds,
           averageIntervalDeviationMilliseconds, delayedPacketCount,
           delayedPacketRate, latencySampleCount,
           averageLatencyMilliseconds, minLatencyMilliseconds,
           maxLatencyMilliseconds }

/-- `PatchEntityStateSequenceId`: overwrite the eight bytes behind the
one-byte header. -/
def patchEntityStateSequenceId (serializedPacket : List UInt8)
    (sequenceId : UInt64) : List UInt8 :=
  if serializedPacket.length < 1 + 8 then serializedPacket
  else
    serializedPacket.take 1
      ++ store host 8 (hostToNetwork64 host sequenceId).toNat
      ++ serializedPacket.drop (1 + 8)

end

/-! ## The bytes of each payload -/

def registerUdpPortBytes (payload : RegisterUdpPortPayload) : List UInt8 :=
  networkBytes 2 payload.port.toNat

def setRateBytes (payload : SetRatePayload) : List UInt8 :=
  networkBytes 4 payload.dataRateHz.toNat

def entityControlInputBytes (payload : EntityControlInputPayload) :
    List UInt8 :=
  networkBytes 4 payload.entityId.toNat
    ++ networkBytes 4 payload.sequenceId.toNat
    ++ networkBytes 4 payload.throttle.toNat
    ++ networkBytes 4 payload.yaw.toNat

def entityStateEntryBytes (entry : EntityStateEntry) : List UInt8 :=
  networkBytes 4 entry.entityId.toNat
    ++ networkBytes 4 entry.positionX.toNat
    ++ networkBytes 4 entry.positionY.toNat
    ++ networkBytes 4 entry.heading.toNat
    ++ networkBytes 4 entry.velocityX.toNat
    ++ networkBytes 4 entry.velocityY.toNat

def entityStateBatchBytes (batch : EntityStateBatchPayload) : List UInt8 :=
  networkBytes 8 batch.sequenceId.toNat
    ++ networkBytes 8 batch.timestamp.toNat
    ++ networkBytes 2 (UInt16.ofNat batch.entities.length).toNat
    ++ batch.entities.flatMap entityStateEntryBytes

def entitySpawnBytes (payload : EntitySpawnPayload) : List UInt8 :=
  networkBytes 4 payload.entityId.toNat
    ++ [payload.type.toUInt8]
    ++ networkBytes 4 payload.positionX.toNat
    ++ networkBytes 4 payload.positionY.toNat
    ++ networkBytes 4 payload.heading.toNat

def entityDespawnBytes (payload : EntityDespawnPayload) : List UInt8 :=
  networkBytes 4 payload.entityId.toNat

def stopBytes (payload : StopPayload) : List UInt8 :=
  networkBytes 8 payload.elapsedSeconds.toNat
    ++ networkBytes 8 payload.totalReceivedCount.toNat
    ++ networkBytes 8 payload.lossCount.toNat
    ++ networkBytes 8 payload.outOfOrderCount.toNat
    ++ networkBytes 8 payload.lossRate.toNat
    ++ networkBytes 8 payload.intervalSampleCount.toNat
    ++ networkBytes 8 payload.averageReceiveIntervalMilliseconds.toNat
    ++ networkBytes 8 payload.maxReceiveIntervalMilliseconds.toNat
    ++ networkBytes 8 payload.averageIntervalDeviationMilliseconds.toNat
    ++ networkBytes 8 payload.delayedPacketCount.toNat
    ++ networkBytes 8 payload.delayedPacketRate.toNat
    ++ networkBytes 8 payload.latencySampleCount.toNat
    ++ networkBytes 8 payload.averageLatencyMilliseconds.toNat
    ++ networkBytes 8 payload.minLatencyMilliseconds.toNat
    ++ networkBytes 8 payload.maxLatencyMilliseconds.toNat

@[simp] theorem registerUdpPortBytes_length (payload : RegisterUdpPortPayload) :
    (registerUdpPortBytes payload).length = registerUdpPortPayloadSize := by
  simp [registerUdpPortBytes, registerUdpPortPayloadSize]

@[simp] theorem setRateBytes_length (payload : SetRatePayload) :
    (setRateBytes payload).length = setRatePayloadSize := by
  simp [setRateBytes, setRatePayloadSize]

@[simp] theorem entityControlInputBytes_length
    (payload : EntityControlInputPayload) :
    (entityControlInputBytes payload).length
      = entityControlInputPayloadSize := by
  simp [entityControlInputBytes, entityControlInputPayloadSize]

@[simp] theorem entityStateEntryBytes_length (entry : EntityStateEntry) :
    (entityStateEntryBytes entry).length = entityStateEntrySize := by
  simp [entityStateEntryBytes, entityStateEntrySize]

@[simp] theorem entitySpawnBytes_length (payload : EntitySpawnPayload) :
    (entitySpawnBytes payload).length = entitySpawnPayloadSize := by
  simp [entitySpawnBytes, entitySpawnPayloadSize]

@[simp] theorem entityDespawnBytes_length (payload : EntityDespawnPayload) :
    (entityDespawnBytes payload).length = entityDespawnPayloadSize := by
  simp [entityDespawnBytes, entityDespawnPayloadSize]

@[simp] theorem stopBytes_length (payload : StopPayload) :
    (stopBytes payload).length = stopPayloadSize := by
  simp [stopBytes, stopPayloadSize]

theorem entityStateBatchBytes_length (batch : EntityStateBatchPayload) :
    (entityStateBatchBytes batch).length
      = 18 + entityStateEntrySize * batch.entities.length := by
  have hentries : (batch.entities.flatMap entityStateEntryBytes).length
      = entityStateEntrySize * batch.entities.length := by
    simp [List.length_flatMap, Nat.mul_comm]
  simp [entityStateBatchBytes, hentries]
  omega

/-! ## Writers append them -/

section

variable (host : ByteOrder)

@[simp] theorem serializeHeader_data (w : BinaryWriter) (type : MessageType) :
    (serializeHeader w type).data = w.data ++ [type.toUInt8] := rfl

theorem serializeRegisterUdpPort_data (w : BinaryWriter)
    (payload : RegisterUdpPortPayload) :
    (serializeRegisterUdpPort host w payload).data
      = w.data ++ registerUdpPortBytes payload := by
  simp [serializeRegisterUdpPort, registerUdpPortBytes]

theorem serializeSetRate_data (w : BinaryWriter) (payload : SetRatePayload) :
    (serializeSetRate host w payload).data = w.data ++ setRateBytes payload := by
  simp [serializeSetRate, setRateBytes]

theorem serializeEntityControlInput_data (w : BinaryWriter)
    (payload : EntityControlInputPayload) :
    (serializeEntityControlInput host w payload).data
      = w.data ++ entityControlInputBytes payload := by
  simp [serializeEntityControlInput, entityControlInputBytes]

theorem serializeEntityStateEntry_data (w : BinaryWriter)
    (entry : EntityStateEntry) :
    (serializeEntityStateEntry host w entry).data
      = w.data ++ entityStateEntryBytes entry := by
  simp [serializeEntityStateEntry, entityStateEntryBytes]

theorem serializeEntries_data : ∀ (entries : List EntityStateEntry)
    (w : BinaryWriter),
    (entries.foldl (serializeEntityStateEntry host) w).data
      = w.data ++ entries.flatMap entityStateEntryBytes
  | [], w => by simp
  | entry :: entries, w => by
      rw [List.foldl_cons, serializeEntries_data entries,
        serializeEntityStateEntry_data, List.flatMap_cons, List.append_assoc]

theorem serializeEntityStateBatch_data (w : BinaryWriter)
    (batch : EntityStateBatchPayload) :
    (serializeEntityStateBatch host w batch).data
      = w.data ++ entityStateBatchBytes batch := by
  rw [serializeEntityStateBatch, serializeEntries_data]
  simp [entityStateBatchBytes]

theorem serializeEntitySpawn_data (w : BinaryWriter)
    (payload : EntitySpawnPayload) :
    (serializeEntitySpawn host w payload).data
      = w.data ++ entitySpawnBytes payload := by
  simp [serializeEntitySpawn, entitySpawnBytes]

theorem serializeEntityDespawn_data (w : BinaryWriter)
    (payload : EntityDespawnPayload) :
    (serializeEntityDespawn host w payload).data
      = w.data ++ entityDespawnBytes payload := by
  simp [serializeEntityDespawn, entityDespawnBytes]

theorem serializeStop_data (w : BinaryWriter) (payload : StopPayload) :
    (serializeStop host w payload).data = w.data ++ stopBytes payload := by
  simp [serializeStop, stopBytes]

/-! ## Readers take them back -/

theorem tryDeserializeHeader_reads (type : MessageType) :
    Reads tryDeserializeHeader [type.toUInt8] type := by
  have h := (tryReadUInt8_reads type.toUInt8).last MessageType.ofUInt8
  rwa [MessageType.ofUInt8_toUInt8] at h

theorem tryDeserializeRegisterUdpPort_reads (payload : RegisterUdpPortPayload) :
    Reads (tryDeserializeRegisterUdpPort host)
      (registerUdpPortBytes payload) payload :=
  (tryReadUInt16_reads host payload.port).last RegisterUdpPortPayload.mk

theorem tryDeserializeSetRate_reads (payload : SetRatePayload) :
    Reads (tryDeserializeSetRate host) (setRateBytes payload) payload :=
  (tryReadUInt32_reads host payload.dataRateHz).last SetRatePayload.mk

theorem tryDeserializeEntityControlInput_reads
    (payload : EntityControlInputPayload) :
    Reads (tryDeserializeEntityControlInput host)
      (entityControlInputBytes payload) payload := by
  simp only [entityControlInputBytes, List.append_assoc]
  refine (tryReadUInt32_reads host _).bind ?_
  refine (tryReadUInt32_reads host _).bind ?_
  refine (tryReadFloat_reads host _).bind ?_
  exact (tryReadFloat_reads host payload.yaw).last _

theorem tryDeserializeEntityStateEntry_reads (entry : EntityStateEntry) :
    Reads (tryDeserializeEntityStateEntry host)
      (entityStateEntryBytes entry) entry := by
  simp only [entityStateEntryBytes, List.append_assoc]
  refine (tryReadUInt32_reads host _).bind ?_
  refine (tryReadFloat_reads host _).bind ?_
  refine (tryReadFloat_reads host _).bind ?_
  refine (tryReadFloat_reads host _).bind ?_
  refine (tryReadFloat_reads host _).bind ?_
  exact (tryReadFloat_reads host entry.velocityY).last _

theorem tryDeserializeEntries_reads : ∀ entries : List EntityStateEntry,
    Reads (tryDeserializeEntries host entries.length)
      (entries.flatMap entityStateEntryBytes) entries
  | [] => Reads.pure []
  | entry :: entries => by
      rw [List.length_cons, List.flatMap_cons]
      refine (tryDeserializeEntityStateEntry_reads host entry).bind ?_
      exact (tryDeserializeEntries_reads entries).last _

/-- The count survives its `uint16_t` cast only below 2^16. -/
theorem tryDeserializeEntityStateBatch_reads (batch : EntityStateBatchPayload)
    (hcount : batch.entities.length < 2 ^ 16) :
    Reads (tryDeserializeEntityStateBatch host)
      (entityStateBatchBytes batch) batch := by
  have hcast : (UInt16.ofNat batch.entities.length).toNat
      = batch.entities.length := by
    rw [UInt16.toNat_ofNat', Nat.mod_eq_of_lt hcount]
  simp only [entityStateBatchBytes, List.append_assoc]
  refine (tryReadUInt64_reads host _).bind ?_
  refine (tryReadUInt64_reads host _).bind ?_
  refine (tryReadUInt16_reads host _).bind ?_
  rw [hcast]
  exact (tryDeserializeEntries_reads host batch.entities).last _

theorem tryDeserializeEntitySpawn_reads (payload : EntitySpawnPayload) :
    Reads (tryDeserializeEntitySpawn host) (entitySpawnBytes payload)
      payload := by
  simp only [entitySpawnBytes, List.append_assoc]
  refine (tryReadUInt32_reads host _).bind ?_
  refine (tryReadUInt8_reads _).bind ?_
  refine (tryReadFloat_reads host _).bind ?_
  refine (tryReadFloat_reads host _).bind ?_
  have h := (tryReadFloat_reads host payload.heading).last
    fun heading => EntitySpawnPayload.mk payload.entityId
      (EntityType.ofUInt8 payload.type.toUInt8) payload.positionX
      payload.positionY heading
  rwa [EntityType.ofUInt8_toUInt8] at h ⊢

theorem tryDeserializeEntityDespawn_reads (payload : EntityDespawnPayload) :
    Reads (tryDeserializeEntityDespawn host) (entityDespawnBytes payload)
      payload :=
  (tryReadUInt32_reads host payload.entityId).last EntityDespawnPayload.mk

theorem tryDeserializeStop_reads (payload : StopPayload) :
    Reads (tryDeserializeStop host) (stopBytes payload) payload := by
  simp only [stopBytes, List.append_assoc]
  refine (tryReadDouble_reads host _).bind ?_
  refine (tryReadUInt64_reads host _).bind ?_
  refine (tryReadUInt64_reads host _).bind ?_
  refine (tryReadUInt64_reads host _).bind ?_
  refine (tryReadDouble_reads host _).bind ?_
  refine (tryReadUInt64_reads host _).bind ?_
  refine (tryReadDouble_reads host _).bind ?_
  refine (tryReadDouble_reads host _).bind ?_
  refine (tryReadDouble_reads host _).bind ?_
  refine (tryReadUInt64_reads host _).bind ?_
  refine (tryReadDouble_reads host _).bind ?_
  refine (tryReadUInt64_reads host _).bind ?_
  refine (tryReadDouble_reads host _).bind ?_
  refine (tryReadDouble_reads host _).bind ?_
  exact (tryReadDouble_reads host payload.maxLatencyMilliseconds).last _

/-! ## The patched packet -/

/-- Patching the shared buffer gives the packet a fresh serialisation
with that recipient's number would give. -/
theorem patchEntityStateSequenceId_batch (header : UInt8)
    (batch : EntityStateBatchPayload) (sequenceId : UInt64) :
    patchEntityStateSequenceId host
        (header :: entityStateBatchBytes batch) sequenceId
      = header :: entityStateBatchBytes { batch with sequenceId } := by
  have hlen := entityStateBatchBytes_length batch
  have hseq : (networkBytes 8 batch.sequenceId.toNat).length = 8 :=
    store_length .big 8 _
  rw [patchEntityStateSequenceId, if_neg (by
    simp only [List.length_cons, hlen]; omega), store_hostToNetwork64]
  simp only [entityStateBatchBytes, List.append_assoc]
  rw [show 1 + 8 = 8 + 1 from rfl, List.drop_succ_cons, List.drop_left' hseq]
  rfl

end

end NetworkControl
