import Mathlib.Data.List.AList
import NetworkControl.Protocol

/-!
# EntityWorld

`ClientCore/EntityWorld.cpp`: the entities one client knows and which of
them is its own. Every operation holds the mutex throughout, so each is
one function of the state.

`ServerMessage` and `applyMessage` are what the TCP stream does to the
world; `myEntityId_foldl` is the convention both ends rely on, that the
first Spawn after `clear` names the client's own entity.
-/

namespace NetworkControl

structure EntityInfo where
  entityId : UInt32 := 0
  type : EntityType := .playerHelicopter
  positionX : FloatBits := 0
  positionY : FloatBits := 0
  heading : FloatBits := 0
  velocityX : FloatBits := 0
  velocityY : FloatBits := 0
deriving DecidableEq, Repr

structure EntityWorld where
  entities : AList fun _ : UInt32 => EntityInfo := ∅
  hasMyEntityId : Bool := false
  myEntityId : UInt32 := 0

namespace EntityWorld

/-- `entities_[id]`, which inserts a default entry where there is none. -/
def entityAt (w : EntityWorld) (id : UInt32) : EntityInfo :=
  (w.entities.lookup id).getD {}

def onSpawn (w : EntityWorld) (payload : EntitySpawnPayload) : EntityWorld :=
  let w :=
    if !w.hasMyEntityId then
      { w with hasMyEntityId := true, myEntityId := payload.entityId }
    else w
  { w with
    entities := w.entities.insert payload.entityId
      { w.entityAt payload.entityId with
        entityId := payload.entityId
        type := payload.type
        positionX := payload.positionX
        positionY := payload.positionY
        heading := payload.heading } }

def onDespawn (w : EntityWorld) (payload : EntityDespawnPayload) :
    EntityWorld :=
  { w with entities := w.entities.erase payload.entityId }

/-- An entity whose Spawn was missed is created. -/
def onState (w : EntityWorld) (entry : EntityStateEntry) : EntityWorld :=
  { w with
    entities := w.entities.insert entry.entityId
      { w.entityAt entry.entityId with
        entityId := entry.entityId
        positionX := entry.positionX
        positionY := entry.positionY
        heading := entry.heading
        velocityX := entry.velocityX
        velocityY := entry.velocityY } }

def tryGetMyEntityId (w : EntityWorld) : Option UInt32 :=
  if !w.hasMyEntityId then none else some w.myEntityId

/-- `GetSnapshot`, in the order of this map. -/
def getSnapshot (w : EntityWorld) : List EntityInfo :=
  w.entities.entries.map fun entry => entry.2

def clear (_ : EntityWorld) : EntityWorld where
  entities := ∅
  hasMyEntityId := false
  myEntityId := 0

end EntityWorld

/-! ## What the TCP stream does to the world -/

/-- What the server writes on a control connection. -/
inductive ServerMessage where
  | entitySpawn (payload : EntitySpawnPayload)
  | entityDespawn (payload : EntityDespawnPayload)
deriving DecidableEq, Repr

namespace EntityWorld

def applyMessage (w : EntityWorld) : ServerMessage → EntityWorld
  | .entitySpawn payload => w.onSpawn payload
  | .entityDespawn payload => w.onDespawn payload

/-- The entity id of a Spawn. -/
def spawnId : ServerMessage → Option UInt32
  | .entitySpawn payload => some payload.entityId
  | .entityDespawn _ => none

theorem tryGetMyEntityId_applyMessage (w : EntityWorld) (m : ServerMessage) :
    (w.applyMessage m).tryGetMyEntityId
      = w.tryGetMyEntityId.or (spawnId m) := by
  cases m with
  | entitySpawn payload =>
      cases h : w.hasMyEntityId <;>
        simp [applyMessage, onSpawn, tryGetMyEntityId, spawnId, h]
  | entityDespawn payload =>
      simp [applyMessage, onDespawn, tryGetMyEntityId, spawnId]

theorem tryGetMyEntityId_foldl : ∀ (ms : List ServerMessage)
    (w : EntityWorld),
    (ms.foldl applyMessage w).tryGetMyEntityId
      = w.tryGetMyEntityId.or (ms.filterMap spawnId).head?
  | [], w => by simp
  | m :: ms, w => by
      rw [List.foldl_cons, tryGetMyEntityId_foldl ms,
        tryGetMyEntityId_applyMessage, Option.or_assoc]
      cases h : spawnId m <;> simp [h]

/-- After `clear`, my id is that of the first Spawn. -/
theorem myEntityId_foldl (w : EntityWorld) (ms : List ServerMessage) :
    (ms.foldl applyMessage w.clear).tryGetMyEntityId
      = (ms.filterMap spawnId).head? := by
  rw [tryGetMyEntityId_foldl]
  rfl

end EntityWorld

end NetworkControl
