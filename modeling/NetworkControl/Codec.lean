import NetworkControl.Protocol

/-!
# The codec in both directions

`NetworkControl.Protocol` has the way out and back: what a `Serialize*`
writes the `TryDeserialize*` reads (`*_reads`). Here is the other one,
from arbitrary bytes. `Decodes p need pre enc` says everything about a
reader at once: it fails when fewer bytes are left than it needs, and
otherwise takes exactly as many, which are those its value is written
with.

`Decodes` composes along the `do` blocks, so each `TryDeserialize*` has
one lemma, field by field; `codec_exact` collects both directions for
every message.
-/

namespace NetworkControl

open Endian BinaryReader

/-! ## Readers on arbitrary bytes -/

/-- `p` needs `need` of the bytes left. It fails on fewer; else it takes
them, and after `pre` they are what its value is encoded to. -/
def Decodes {α : Type} (p : Read α) (need : List UInt8 → Nat)
    (pre : List UInt8) (enc : α → List UInt8) : Prop :=
  ∀ r : BinaryReader,
    (need r.remaining ≤ r.remaining.length →
      ∃ v, p r = some (v, r.advance (need r.remaining))
        ∧ enc v = pre ++ r.remaining.take (need r.remaining))
    ∧ (r.remaining.length < need r.remaining → p r = none)

namespace Decodes

variable {α β : Type} {p : Read α} {f : α → Read β} {n : Nat}
  {pre : List UInt8} {enc : α → List UInt8} {encβ : β → List UInt8}

theorem pure {v : α} (h : enc v = pre) :
    Decodes (Pure.pure v) (fun _ => 0) pre enc := by
  intro r
  refine ⟨fun _ => ⟨v, rfl, ?_⟩,
    fun hshort => absurd hshort (Nat.not_lt_zero _)⟩
  rw [List.take_zero, List.append_nil]
  exact h

/-- What the second reader needs may depend on the value of the first. -/
theorem bind_dep {need : List UInt8 → Nat} {k : α → List UInt8 → Nat}
    (hp : Decodes p (fun _ => n) [] enc)
    (hf : ∀ x, Decodes (f x) (k x) (pre ++ enc x) encβ)
    (hneed : ∀ x bytes, enc x = bytes.take n →
      need bytes = n + k x (bytes.drop n))
    (hshort : ∀ bytes, bytes.length < n → bytes.length < need bytes) :
    Decodes (p >>= f) need pre encβ := by
  intro r
  have hrest : (r.advance n).remaining = r.remaining.drop n := by
    simp only [remaining, advance, List.drop_drop]
  by_cases hn : n ≤ r.remaining.length
  · obtain ⟨x, hx, henc⟩ := (hp r).1 hn
    have hbind : (p >>= f) r = f x (r.advance n) := by
      show (p r).bind (fun y => f y.1 y.2) = _
      rw [hx]
      rfl
    have hsum := hneed x r.remaining henc
    obtain ⟨hlong, hfail⟩ := hf x (r.advance n)
    rw [hrest, List.length_drop] at hlong hfail
    constructor
    · intro hle
      obtain ⟨v, hv, hvenc⟩ := hlong (by omega)
      refine ⟨v, ?_, ?_⟩
      · rw [hbind, hv, hsum, advance, advance, advance, Nat.add_assoc]
      · rw [hvenc, henc, List.nil_append, List.append_assoc, hsum,
          List.take_add]
    · intro hlt
      rw [hbind]
      exact hfail (by omega)
  · have hnone : (p >>= f) r = none := by
      show (p r).bind (fun y => f y.1 y.2) = none
      rw [(hp r).2 (Nat.lt_of_not_le hn)]
      rfl
    have hlt := hshort r.remaining (Nat.lt_of_not_le hn)
    exact ⟨fun hle => absurd hle (Nat.not_le_of_lt hlt), fun _ => hnone⟩

/-- What a reader that succeeded has taken. -/
theorem of_some {need : List UInt8 → Nat} (h : Decodes p need pre enc)
    {r r' : BinaryReader} {v : α} (hread : p r = some (v, r')) :
    need r.remaining ≤ r.remaining.length
      ∧ r' = r.advance (need r.remaining)
      ∧ enc v = pre ++ r.remaining.take (need r.remaining) := by
  obtain ⟨hlong, hshort⟩ := h r
  rcases Nat.lt_or_ge r.remaining.length (need r.remaining) with hlt | hle
  · rw [hshort hlt] at hread
    cases hread
  · obtain ⟨v', hread', henc⟩ := hlong hle
    obtain ⟨rfl, rfl⟩ := Prod.mk.inj (Option.some.inj
      (hread.symm.trans hread'))
    exact ⟨hle, rfl, henc⟩

/-- A field, and the fields behind it. -/
theorem field {m : Nat} (hp : Decodes p (fun _ => n) [] enc)
    (hf : ∀ x, Decodes (f x) (fun _ => m) (pre ++ enc x) encβ) :
    Decodes (p >>= f) (fun _ => m + n) pre encβ := by
  refine bind_dep hp hf (fun _ _ _ => Nat.add_comm m n) ?_
  intro bytes hlt
  omega

theorem bind {k : List UInt8 → Nat}
    (hp : Decodes p (fun _ => n) [] enc)
    (hf : ∀ x, Decodes (f x) k (pre ++ enc x) encβ) :
    Decodes (p >>= f) (fun bytes => n + k (bytes.drop n)) pre encβ := by
  refine bind_dep hp hf (fun _ _ _ => rfl) ?_
  intro bytes hlt
  omega

/-- The value is built from the last one read; `hg` may use that it was. -/
theorem last {need : List UInt8 → Nat} {pre₀ : List UInt8} {g : α → β}
    (hp : Decodes p need pre₀ enc)
    (hg : ∀ r v r', p r = some (v, r') → ∀ bytes, enc v = pre₀ ++ bytes →
      encβ (g v) = pre ++ bytes) :
    Decodes (p >>= fun x => Pure.pure (g x)) need pre encβ := by
  intro r
  have hbind : (p >>= fun x => Pure.pure (g x)) r
      = (p r).bind fun y => some (g y.1, y.2) := rfl
  refine ⟨?_, ?_⟩
  · intro hle
    obtain ⟨v, hv, henc⟩ := (hp r).1 hle
    refine ⟨g v, ?_, hg r v _ hv _ henc⟩
    rw [hbind, hv]
    rfl
  · intro hlt
    rw [hbind, (hp r).2 hlt]
    rfl

end Decodes

/-! ## Words -/

/-- Each `memcpy` finds all its bytes inside the buffer. -/
theorem bytesAt_inside {r : BinaryReader} {count : Nat}
    (h : r.hasRemaining count = true) :
    r.offset + count ≤ r.data.length ∧ (r.bytesAt count).length = count := by
  have hle := of_decide_eq_true h
  refine ⟨hle, ?_⟩
  rw [bytesAt, List.length_take, List.length_drop]
  omega

theorem hasRemaining_eq {r : BinaryReader} {count : Nat} (hpos : 0 < count) :
    r.hasRemaining count = decide (count ≤ r.remaining.length) := by
  rw [hasRemaining, remaining, List.length_drop]
  congr 1
  exact propext (by omega)

/-- A word read from `w` bytes is written with these bytes. -/
theorem networkBytes_load {w : Nat} {bytes : List UInt8}
    (hlen : bytes.length = w) : networkBytes w (load .big bytes) = bytes := by
  subst hlen
  exact store_load .big bytes

theorem load_big_lt (bytes : List UInt8) :
    load .big bytes < 256 ^ bytes.length := by
  have h := ofLittleBytes_lt bytes.reverse
  rwa [List.length_reverse] at h

theorem tryReadUInt8_decodes :
    Decodes tryReadUInt8 (fun _ => 1) [] (fun v => [v]) := by
  intro r
  rw [tryReadUInt8, hasRemaining_eq Nat.one_pos]
  refine ⟨?_, ?_⟩
  · intro hle
    rw [if_pos (decide_eq_true hle)]
    refine ⟨_, rfl, ?_⟩
    have hget : r.remaining[0]? = r.data[r.offset]? := by
      rw [remaining, List.getElem?_drop, Nat.add_zero]
    rw [← hget]
    cases hr : r.remaining with
    | nil =>
        rw [hr] at hle
        cases hle
    | cons b rest => rfl
  · intro hlt
    rw [if_neg]
    exact fun h => absurd (of_decide_eq_true h) (Nat.not_le_of_lt hlt)

/-- A guarded `memcpy` of `n` bytes and their conversion. -/
theorem Decodes.word {α : Type} {n : Nat} (value : List UInt8 → α)
    {enc : α → List UInt8} (hpos : 0 < n)
    (henc : ∀ bytes, bytes.length = n → enc (value bytes) = bytes) :
    Decodes (fun r => if r.hasRemaining n then
      some (value (r.bytesAt n), r.advance n) else none)
      (fun _ => n) [] enc := by
  intro r
  refine ⟨?_, ?_⟩
  · intro hle
    have hhas : r.hasRemaining n = true :=
      (hasRemaining_eq hpos).trans (decide_eq_true hle)
    exact ⟨_, if_pos hhas, henc _ (bytesAt_inside hhas).2⟩
  · intro hlt
    dsimp only
    rw [hasRemaining_eq hpos, if_neg]
    exact fun h => absurd (of_decide_eq_true h) (Nat.not_le_of_lt hlt)

section

variable (host : ByteOrder)

theorem tryReadUInt16_decodes :
    Decodes (tryReadUInt16 host) (fun _ => 2) []
      (fun v => networkBytes 2 v.toNat) := by
  refine Decodes.word (fun bytes =>
    networkToHost16 host (UInt16.ofNat (load host bytes))) (by decide) ?_
  intro bytes hlen
  have hlt : load .big bytes < 2 ^ 16 :=
    lt_of_lt_of_eq (load_big_lt bytes) (by rw [hlen]; norm_num)
  rw [networkToHost16_load host hlen, UInt16.toNat_ofNat',
    Nat.mod_eq_of_lt hlt, networkBytes_load hlen]

theorem tryReadUInt32_decodes :
    Decodes (tryReadUInt32 host) (fun _ => 4) []
      (fun v => networkBytes 4 v.toNat) := by
  refine Decodes.word (fun bytes =>
    networkToHost32 host (UInt32.ofNat (load host bytes))) (by decide) ?_
  intro bytes hlen
  have hlt : load .big bytes < 2 ^ 32 :=
    lt_of_lt_of_eq (load_big_lt bytes) (by rw [hlen]; norm_num)
  rw [networkToHost32_load host hlen, UInt32.toNat_ofNat',
    Nat.mod_eq_of_lt hlt, networkBytes_load hlen]

theorem tryReadUInt64_decodes :
    Decodes (tryReadUInt64 host) (fun _ => 8) []
      (fun v => networkBytes 8 v.toNat) := by
  refine Decodes.word (fun bytes =>
    networkToHost64 host (UInt64.ofNat (load host bytes))) (by decide) ?_
  intro bytes hlen
  have hlt : load .big bytes < 2 ^ 64 :=
    lt_of_lt_of_eq (load_big_lt bytes) (by rw [hlen]; norm_num)
  rw [networkToHost64_load host hlen, UInt64.toNat_ofNat',
    Nat.mod_eq_of_lt hlt, networkBytes_load hlen]

theorem tryReadFloat_decodes :
    Decodes (tryReadFloat host) (fun _ => 4) []
      (fun v => networkBytes 4 v.toNat) :=
  tryReadUInt32_decodes host

theorem tryReadDouble_decodes :
    Decodes (tryReadDouble host) (fun _ => 8) []
      (fun v => networkBytes 8 v.toNat) :=
  tryReadUInt64_decodes host

end

/-! ## Payloads -/

theorem MessageType.toUInt8_ofUInt8 (raw : UInt8) :
    (MessageType.ofUInt8 raw).toUInt8 = raw := by
  have hall : ∀ v : Fin 256, (MessageType.ofUInt8 (UInt8.ofFin v)).toUInt8
      = UInt8.ofFin v := by decide +kernel
  exact hall raw.toFin

theorem EntityType.toUInt8_ofUInt8 (raw : UInt8) :
    (EntityType.ofUInt8 raw).toUInt8 = raw := by
  have hall : ∀ v : Fin 256, (EntityType.ofUInt8 (UInt8.ofFin v)).toUInt8
      = UInt8.ofFin v := by decide +kernel
  exact hall raw.toFin

theorem tryDeserializeHeader_decodes :
    Decodes tryDeserializeHeader (fun _ => 1) [] (fun type => [type.toUInt8]) :=
  tryReadUInt8_decodes.field fun raw =>
    Decodes.pure (by rw [MessageType.toUInt8_ofUInt8]; rfl)

section

variable (host : ByteOrder)

theorem tryDeserializeRegisterUdpPort_decodes :
    Decodes (tryDeserializeRegisterUdpPort host)
      (fun _ => registerUdpPortPayloadSize) [] registerUdpPortBytes :=
  (tryReadUInt16_decodes host).field fun _ => Decodes.pure rfl

theorem tryDeserializeSetRate_decodes :
    Decodes (tryDeserializeSetRate host) (fun _ => setRatePayloadSize) []
      setRateBytes :=
  (tryReadUInt32_decodes host).field fun _ => Decodes.pure rfl

theorem tryDeserializeEntityControlInput_decodes :
    Decodes (tryDeserializeEntityControlInput host)
      (fun _ => entityControlInputPayloadSize) [] entityControlInputBytes := by
  show Decodes _ (fun _ => 16) _ _
  refine (tryReadUInt32_decodes host).field fun entityId => ?_
  refine (tryReadUInt32_decodes host).field fun sequenceId => ?_
  refine (tryReadFloat_decodes host).field fun throttle => ?_
  refine (tryReadFloat_decodes host).field fun yaw => ?_
  exact Decodes.pure rfl

theorem tryDeserializeEntitySpawn_decodes :
    Decodes (tryDeserializeEntitySpawn host)
      (fun _ => entitySpawnPayloadSize) [] entitySpawnBytes := by
  show Decodes _ (fun _ => 17) _ _
  refine (tryReadUInt32_decodes host).field fun entityId => ?_
  refine tryReadUInt8_decodes.field fun rawType => ?_
  refine (tryReadFloat_decodes host).field fun positionX => ?_
  refine (tryReadFloat_decodes host).field fun positionY => ?_
  refine (tryReadFloat_decodes host).field fun heading => ?_
  refine Decodes.pure ?_
  rw [entitySpawnBytes, EntityType.toUInt8_ofUInt8]
  rfl

theorem tryDeserializeEntityDespawn_decodes :
    Decodes (tryDeserializeEntityDespawn host)
      (fun _ => entityDespawnPayloadSize) [] entityDespawnBytes :=
  (tryReadUInt32_decodes host).field fun _ => Decodes.pure rfl

theorem tryDeserializeStop_decodes :
    Decodes (tryDeserializeStop host) (fun _ => stopPayloadSize) []
      stopBytes := by
  show Decodes _ (fun _ => 120) _ _
  refine (tryReadDouble_decodes host).field fun elapsedSeconds => ?_
  refine (tryReadUInt64_decodes host).field fun totalReceivedCount => ?_
  refine (tryReadUInt64_decodes host).field fun lossCount => ?_
  refine (tryReadUInt64_decodes host).field fun outOfOrderCount => ?_
  refine (tryReadDouble_decodes host).field fun lossRate => ?_
  refine (tryReadUInt64_decodes host).field fun intervalSampleCount => ?_
  refine (tryReadDouble_decodes host).field fun averageInterval => ?_
  refine (tryReadDouble_decodes host).field fun maxInterval => ?_
  refine (tryReadDouble_decodes host).field fun averageDeviation => ?_
  refine (tryReadUInt64_decodes host).field fun delayedPacketCount => ?_
  refine (tryReadDouble_decodes host).field fun delayedPacketRate => ?_
  refine (tryReadUInt64_decodes host).field fun latencySampleCount => ?_
  refine (tryReadDouble_decodes host).field fun averageLatency => ?_
  refine (tryReadDouble_decodes host).field fun minLatency => ?_
  refine (tryReadDouble_decodes host).field fun maxLatency => ?_
  exact Decodes.pure rfl

/-! ## Batches -/

theorem tryDeserializeEntityStateEntry_decodes :
    Decodes (tryDeserializeEntityStateEntry host)
      (fun _ => entityStateEntrySize) [] entityStateEntryBytes := by
  show Decodes _ (fun _ => 24) _ _
  refine (tryReadUInt32_decodes host).field fun entityId => ?_
  refine (tryReadFloat_decodes host).field fun positionX => ?_
  refine (tryReadFloat_decodes host).field fun positionY => ?_
  refine (tryReadFloat_decodes host).field fun heading => ?_
  refine (tryReadFloat_decodes host).field fun velocityX => ?_
  refine (tryReadFloat_decodes host).field fun velocityY => ?_
  exact Decodes.pure rfl

theorem tryDeserializeEntries_decodes : ∀ count : Nat,
    Decodes (tryDeserializeEntries host count)
      (fun _ => entityStateEntrySize * count) []
      (fun entries => entries.flatMap entityStateEntryBytes)
  | 0 => Decodes.pure rfl
  | count + 1 => by
      rw [Nat.mul_succ]
      refine (tryDeserializeEntityStateEntry_decodes host).field
        fun entry => ?_
      refine (tryDeserializeEntries_decodes count).last ?_
      intro r entries r' hread bytes hentries
      rw [List.flatMap_cons, show _ = bytes from hentries]
      rfl

/-- The loop yields as many entries as it was told. -/
theorem tryDeserializeEntries_length : ∀ (count : Nat) (r r' : BinaryReader)
    (entries : List EntityStateEntry),
    tryDeserializeEntries host count r = some (entries, r') →
      entries.length = count
  | 0, r, r', entries, h => by
      obtain ⟨rfl, -⟩ := Prod.mk.inj (Option.some.inj h)
      rfl
  | count + 1, r, r', entries, h => by
      obtain ⟨⟨entry, r₁⟩, -, h⟩ := Option.bind_eq_some_iff.mp h
      obtain ⟨⟨rest, r₂⟩, hrest, h⟩ := Option.bind_eq_some_iff.mp h
      obtain ⟨rfl, -⟩ := Prod.mk.inj (Option.some.inj h)
      rw [List.length_cons,
        tryDeserializeEntries_length count r₁ r₂ rest hrest]

end

/-- The size a batch declares: 18 bytes, and 24 for each entry counted by
the two bytes at 16. -/
def entityStateBatchSize (bytes : List UInt8) : Nat :=
  18 + entityStateEntrySize * load .big ((bytes.drop 16).take 2)

theorem tryDeserializeEntityStateBatch_decodes (host : ByteOrder) :
    Decodes (tryDeserializeEntityStateBatch host) entityStateBatchSize []
      entityStateBatchBytes := by
  have hsize : entityStateBatchSize = fun bytes => 8 + (8 + (2
      + entityStateEntrySize
        * load .big (((bytes.drop 8).drop 8).take 2))) := by
    funext bytes
    simp only [entityStateBatchSize, List.drop_drop, Nat.reduceAdd]
    omega
  rw [hsize]
  refine (tryReadUInt64_decodes host).bind (k := fun bytes =>
    8 + (2 + entityStateEntrySize * load .big ((bytes.drop 8).take 2)))
    fun sequenceId => ?_
  refine (tryReadUInt64_decodes host).bind (k := fun bytes =>
    2 + entityStateEntrySize * load .big (bytes.take 2)) fun timestamp => ?_
  refine (tryReadUInt16_decodes host).bind_dep
    (k := fun entityCount _ => entityStateEntrySize * entityCount.toNat)
    (fun entityCount => ?_) ?_ ?_
  · refine (tryDeserializeEntries_decodes host entityCount.toNat).last ?_
    intro r entities r' hread bytes hentities
    have hcount : UInt16.ofNat entities.length = entityCount := by
      rw [tryDeserializeEntries_length host _ _ _ _ hread,
        UInt16.ofNat_toNat]
    rw [entityStateBatchBytes, hcount, show _ = bytes from hentities]
    rfl
  · intro entityCount bytes hbytes
    have hlt : entityCount.toNat < 256 ^ 2 := entityCount.toNat_lt
    rw [← hbytes, load_store, Nat.mod_eq_of_lt hlt]
  · intro bytes hlt
    omega

/-! ## Both directions -/

/-- `write` and `read` undo each other between any two hosts, on the values
`Valid` and on all bytes; `size` is what `read` needs of the bytes. -/
structure ExactCodec {α : Type}
    (write : ByteOrder → BinaryWriter → α → BinaryWriter)
    (read : ByteOrder → Read α) (Valid : α → Prop)
    (size : List UInt8 → Nat) : Prop where
  decode_encode : ∀ writer reader v, Valid v → ∀ suffix,
    ∃ r, read reader ⟨(write writer {} v).data ++ suffix, 0⟩ = some (v, r)
      ∧ r.remaining = suffix
  succeeds_iff : ∀ reader bytes,
    (read reader ⟨bytes, 0⟩).isSome = true ↔ size bytes ≤ bytes.length
  inside : ∀ reader bytes v r, read reader ⟨bytes, 0⟩ = some (v, r) →
    r.data = bytes ∧ r.offset = size bytes ∧ r.offset ≤ bytes.length
  encode_decode : ∀ writer reader bytes v r,
    read reader ⟨bytes, 0⟩ = some (v, r) →
      (write writer {} v).data = bytes.take (size bytes)

/-- Both descriptions of a message's bytes, put together. -/
theorem ExactCodec.of_bytes {α : Type}
    {write : ByteOrder → BinaryWriter → α → BinaryWriter}
    {read : ByteOrder → Read α} {Valid : α → Prop}
    {size : List UInt8 → Nat} {enc : α → List UInt8}
    (hwrite : ∀ host w v, (write host w v).data = w.data ++ enc v)
    (hreads : ∀ host v, Valid v → Reads (read host) (enc v) v)
    (hdecodes : ∀ host, Decodes (read host) size [] enc) :
    ExactCodec write read Valid size := by
  have hsuccess : ∀ reader bytes v r, read reader ⟨bytes, 0⟩ = some (v, r) →
      size bytes ≤ bytes.length ∧ r = ⟨bytes, 0 + size bytes⟩
        ∧ enc v = bytes.take (size bytes) := by
    intro reader bytes v r hread
    exact (hdecodes reader).of_some hread
  constructor
  · intro writer reader v hvalid suffix
    refine hreads reader v hvalid _ suffix ?_
    rw [hwrite]
    rfl
  · intro reader bytes
    obtain ⟨hlong, hshort⟩ := hdecodes reader ⟨bytes, 0⟩
    constructor
    · intro hsome
      by_contra hlt
      rw [hshort (Nat.lt_of_not_le hlt)] at hsome
      cases hsome
    · intro hle
      obtain ⟨v, hread, -⟩ := hlong hle
      exact Option.isSome_of_eq_some hread
  · intro reader bytes v r hread
    obtain ⟨hle, rfl, -⟩ := hsuccess reader bytes v r hread
    exact ⟨rfl, Nat.zero_add _, (Nat.zero_add _).trans_le hle⟩
  · intro writer reader bytes v r hread
    rw [hwrite]
    exact (hsuccess reader bytes v r hread).2.2

/-- Every message of the protocol, and the header before it; and no
`memcpy` of a reader leaves its buffer. -/
theorem codec_exact :
    ExactCodec (fun _ => serializeHeader) (fun _ => tryDeserializeHeader)
      (fun _ => True) (fun _ => 1)
    ∧ ExactCodec serializeRegisterUdpPort tryDeserializeRegisterUdpPort
      (fun _ => True) (fun _ => registerUdpPortPayloadSize)
    ∧ ExactCodec serializeSetRate tryDeserializeSetRate
      (fun _ => True) (fun _ => setRatePayloadSize)
    ∧ ExactCodec serializeEntityControlInput tryDeserializeEntityControlInput
      (fun _ => True) (fun _ => entityControlInputPayloadSize)
    ∧ ExactCodec serializeEntityStateEntry tryDeserializeEntityStateEntry
      (fun _ => True) (fun _ => entityStateEntrySize)
    ∧ ExactCodec serializeEntityStateBatch tryDeserializeEntityStateBatch
      (fun batch => batch.entities.length ≤ 65535) entityStateBatchSize
    ∧ ExactCodec serializeEntitySpawn tryDeserializeEntitySpawn
      (fun _ => True) (fun _ => entitySpawnPayloadSize)
    ∧ ExactCodec serializeEntityDespawn tryDeserializeEntityDespawn
      (fun _ => True) (fun _ => entityDespawnPayloadSize)
    ∧ ExactCodec serializeStop tryDeserializeStop
      (fun _ => True) (fun _ => stopPayloadSize)
    ∧ ∀ (r : BinaryReader) (count : Nat), r.hasRemaining count = true →
      r.offset + count ≤ r.data.length
        ∧ (r.bytesAt count).length = count := by
  refine ⟨?_, ?_, ?_, ?_, ?_, ?_, ?_, ?_, ?_, fun _ _ => bytesAt_inside⟩
  · exact .of_bytes (fun _ => serializeHeader_data)
      (fun _ type _ => tryDeserializeHeader_reads type)
      (fun _ => tryDeserializeHeader_decodes)
  · exact .of_bytes serializeRegisterUdpPort_data
      (fun host payload _ => tryDeserializeRegisterUdpPort_reads host payload)
      tryDeserializeRegisterUdpPort_decodes
  · exact .of_bytes serializeSetRate_data
      (fun host payload _ => tryDeserializeSetRate_reads host payload)
      tryDeserializeSetRate_decodes
  · exact .of_bytes serializeEntityControlInput_data
      (fun host payload _ =>
        tryDeserializeEntityControlInput_reads host payload)
      tryDeserializeEntityControlInput_decodes
  · exact .of_bytes serializeEntityStateEntry_data
      (fun host entry _ => tryDeserializeEntityStateEntry_reads host entry)
      tryDeserializeEntityStateEntry_decodes
  · exact .of_bytes serializeEntityStateBatch_data
      (fun host batch hcount => tryDeserializeEntityStateBatch_reads host
        batch (Nat.lt_succ_of_le hcount))
      tryDeserializeEntityStateBatch_decodes
  · exact .of_bytes serializeEntitySpawn_data
      (fun host payload _ => tryDeserializeEntitySpawn_reads host payload)
      tryDeserializeEntitySpawn_decodes
  · exact .of_bytes serializeEntityDespawn_data
      (fun host payload _ => tryDeserializeEntityDespawn_reads host payload)
      tryDeserializeEntityDespawn_decodes
  · exact .of_bytes serializeStop_data
      (fun host payload _ => tryDeserializeStop_reads host payload)
      tryDeserializeStop_decodes

end NetworkControl
