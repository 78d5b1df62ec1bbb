import NetworkControl.Departure
import NetworkControl.KeyedObjects
import NetworkControl.MainViewModel

/-!
# The entities on the screen

`Poll` of `Gui/ViewModels/MainViewModel.cs`, with the `EntityViewModel`s it
keeps in two containers: the collection the window draws and a dictionary
by entity id. Every `Poll` that sees `Connected` adds, updates and prunes
entity by entity; one that sees `Reconnecting` clears both, unless the
collection is empty.

`view_in_step` says that the containers never drift apart and that the
window follows the client's entities (`Follows`), whatever the client
answers from one `Poll` to the next. An entity keeps its view model for as
long as it is there.
-/

namespace NetworkControl

/-! ## double -/

/-- What the window does with `double`. -/
class DoubleArith (D : Type) where
  ofRat : ℚ → D
  ofSingle : FloatBits → D
  add : D → D → D
  sub : D → D → D
  mul : D → D → D
  div : D → D → D
  neg : D → D
  pi : D
  cos : D → D
  sin : D → D
  lt : D → D → Bool
  eq : D → D → Bool

instance : DoubleArith Float where
  ofRat q := Float.ofInt q.num / Float.ofNat q.den
  ofSingle x := (Float32.ofBits x).toFloat
  add := Float.add
  sub := Float.sub
  mul := Float.mul
  div := Float.div
  neg := Float.neg
  pi := 3.141592653589793
  cos := Float.cos
  sin := Float.sin
  lt a b := decide (a < b)
  eq a b := a == b

namespace DoubleArith

variable {D : Type} [DoubleArith D]

def isNaN (x : D) : Bool := !eq x x

/-- `double.Equals`. -/
def equals (x y : D) : Bool := eq x y || (isNaN x && isNaN y)

/-- `Math.Min`. -/
def mathMin (x y : D) : D := if lt x y then x else if isNaN x then x else y

/-- `Math.Max`. -/
def mathMax (x y : D) : D := if lt y x then x else if isNaN x then x else y

end DoubleArith

namespace Single

def isNaN (x : FloatBits) : Bool := 0x7F800000 < x &&& 0x7FFFFFFF

def isZero (x : FloatBits) : Bool := x &&& 0x7FFFFFFF == 0

/-- `float.Equals`: also of two NaNs, and of 0 and -0. -/
def equals (x y : FloatBits) : Bool :=
  x == y || (isNaN x && isNaN y) || (isZero x && isZero y)

theorem equals_self (x : FloatBits) : equals x x = true := by
  rw [equals, BEq.rfl, Bool.true_or, Bool.true_or]

end Single

/-! ## One entity -/

/-- `ViewModelBase.SetProperty`, up to the event it raises. -/
def setProperty {T : Type} (equals : T → T → Bool) (field value : T) : T :=
  if equals field value then field else value

theorem setProperty_beq {T : Type} [BEq T] [LawfulBEq T] (field value : T) :
    setProperty (· == ·) field value = value := by
  unfold setProperty
  split
  · rename_i h
    exact eq_of_beq h
  · rfl

theorem equals_setProperty {T : Type} {equals : T → T → Bool}
    (hself : ∀ value, equals value value = true) (field value : T) :
    equals (setProperty equals field value) value = true := by
  unfold setProperty
  split
  · rename_i h
    exact h
  · exact hself value

structure EntityViewModel (D : Type) where
  entityId : UInt32
  positionX : FloatBits
  positionY : FloatBits
  heading : FloatBits
  isMine : Bool
  canvasLeft : D
  canvasTop : D
  headingDegrees : D
  minimapLeft : D
  minimapTop : D

namespace EntityViewModel

open DoubleArith

variable {D : Type} [DoubleArith D]

def canvasSize : ℚ := 640
def worldExtent : ℚ := 300
def markerRadius : ℚ := 8
def minimapSize : ℚ := 150
def minimapWorldExtent : ℚ := 400
def minimapMarkerRadius : ℚ := 3

/-- `new EntityViewModel { EntityId = entityId }`. -/
def new (entityId : UInt32) : EntityViewModel D where
  entityId := setProperty (· == ·) 0 entityId
  positionX := 0
  positionY := 0
  heading := 0
  isMine := false
  canvasLeft := ofRat 0
  canvasTop := ofRat 0
  headingDegrees := ofRat 0
  minimapLeft := ofRat 0
  minimapTop := ofRat 0

def setIsMine (vm : EntityViewModel D) (value : Bool) : EntityViewModel D :=
  { vm with isMine := setProperty (· == ·) vm.isMine value }

def updateState (vm : EntityViewModel D)
    (positionX positionY heading : FloatBits) : EntityViewModel D :=
  { vm with
    positionX := setProperty Single.equals vm.positionX positionX
    positionY := setProperty Single.equals vm.positionY positionY
    heading := setProperty Single.equals vm.heading heading }

/-- A coordinate from `-extent` to `extent` on a square of `size` pixels,
clamped at its edges. -/
def toScreen (extent size : ℚ) (coordinate : D) : D :=
  let normalized :=
    mul (div (add coordinate (ofRat extent)) (mul (ofRat extent) (ofRat 2)))
      (ofRat size)
  mathMax (ofRat 0) (mathMin (ofRat size) normalized)

def toCanvas : D → D := toScreen worldExtent canvasSize

def toMinimap : D → D := toScreen minimapWorldExtent minimapSize

def updateCanvasPosition (vm : EntityViewModel D)
    (cameraWorldX cameraWorldY cameraHeading : D) : EntityViewModel D :=
  let positionX := ofSingle vm.positionX
  let positionY := ofSingle vm.positionY
  let relativeX := sub positionX cameraWorldX
  let relativeY := sub positionY cameraWorldY
  let delta := sub (div pi (ofRat 2)) cameraHeading
  let cosDelta := cos delta
  let sinDelta := sin delta
  let rotatedX := sub (mul relativeX cosDelta) (mul relativeY sinDelta)
  let rotatedY := add (mul relativeX sinDelta) (mul relativeY cosDelta)
  let effectiveHeadingAngle := add (ofSingle vm.heading) delta
  { vm with
    canvasLeft := setProperty equals vm.canvasLeft
      (sub (toCanvas rotatedX) (ofRat markerRadius))
    canvasTop := setProperty equals vm.canvasTop
      (sub (toCanvas (neg rotatedY)) (ofRat markerRadius))
    headingDegrees := setProperty equals vm.headingDegrees
      (div (mul (neg effectiveHeadingAngle) (ofRat 180)) pi)
    minimapLeft := setProperty equals vm.minimapLeft
      (sub (toMinimap positionX) (ofRat minimapMarkerRadius))
    minimapTop := setProperty equals vm.minimapTop
      (sub (toMinimap (neg positionY)) (ofRat minimapMarkerRadius)) }

end EntityViewModel

/-! ## The client's answers -/

structure ManagedEntityInfo where
  entityId : UInt32 := 0
  positionX : FloatBits := 0
  positionY : FloatBits := 0
  heading : FloatBits := 0
  velocityX : FloatBits := 0
  velocityY : FloatBits := 0
deriving DecidableEq, Repr

namespace ManagedGameClient

/-- `GetEntities`, of the native client's world. -/
def getEntities (world : EntityWorld) : List ManagedEntityInfo :=
  world.getSnapshot.map fun entity =>
    { entityId := entity.entityId
      positionX := entity.positionX
      positionY := entity.positionY
      heading := entity.heading
      velocityX := entity.velocityX
      velocityY := entity.velocityY }

end ManagedGameClient

/-- What one `Poll` is told. The client's threads go on meanwhile, so the
answers need not be of one moment. -/
structure PollAnswers (D : Type) where
  connectionState : ConnectionState
  myEntityId : Option UInt32
  entities : List ManagedEntityInfo
  metrics : MetricsSnapshot UInt64 D

/-- The ids `Poll` sees. -/
def PollAnswers.seenIds {D : Type} (answers : PollAnswers D) : List UInt32 :=
  answers.entities.map fun entity => entity.entityId

/-! ## Poll -/

/-- `Entities` and `entityLookup_`. -/
abbrev ViewModels (D : Type) := KeyedObjects UInt32 (EntityViewModel D)

namespace ViewModels

open DoubleArith

variable {D : Type} [DoubleArith D]

/-- What the loop does to the view model of an entity. -/
def update (myEntityId : Option UInt32) (entity : ManagedEntityInfo)
    (vm : EntityViewModel D) : EntityViewModel D :=
  (vm.updateState entity.positionX entity.positionY entity.heading).setIsMine
    (myEntityId == some entity.entityId)

/-- The loop over the entities. -/
def showAll (t : ViewModels D) (answers : PollAnswers D) : ViewModels D :=
  t.upsertAll (fun entity => entity.entityId)
    (fun entity => EntityViewModel.new entity.entityId)
    (update answers.myEntityId) answers.entities

/-- Only keys of the dictionary are stale, so they are all found. -/
def prune (t : ViewModels D) (answers : PollAnswers D) : ViewModels D :=
  let staleIds := t.lookup.keys.filter fun id => id ∉ answers.seenIds
  t.removeAll staleIds

/-- `myVm`, a reference. -/
def myVm (t : ViewModels D) (answers : PollAnswers D) : Option Nat :=
  answers.myEntityId.bind t.find

/-- Before its entity is spawned, the camera is at the origin. -/
def camera (t : ViewModels D) (answers : PollAnswers D) : D × D × D :=
  match (t.myVm answers).bind fun ref => t.objects[ref]? with
  | some vm =>
      (ofSingle vm.positionX, ofSingle vm.positionY, ofSingle vm.heading)
  | none => (ofRat 0, ofRat 0, ofRat 0)

def draw (t : ViewModels D) (answers : PollAnswers D) : ViewModels D :=
  let (cameraX, cameraY, cameraHeading) := t.camera answers
  t.modifyAll fun vm => vm.updateCanvasPosition cameraX cameraY cameraHeading

end ViewModels

/-- A `MainViewModel` with its entities. -/
structure EntityView (D : Type) extends MainViewModel where
  entities : ViewModels D := {}
  statusMessage : String := "연결되지 않음"
  myEntityIdText : String := "-"
  myPositionText : String := "-"
  metrics : Option (MetricsSnapshot UInt64 D) := none

namespace EntityView

variable {D : Type}

def clearStaleEntities (view : EntityView D) : EntityView D :=
  if view.entities.shown.length = 0 then view
  else
    { view with
      entities := view.entities.clear
      myEntityIdText := "-"
      myPositionText := "-" }

def applyConnectionState (view : EntityView D) (state : ConnectionState) :
    EntityView D :=
  let view :=
    { view with
      toMainViewModel := view.toMainViewModel.applyConnectionState state }
  match state with
  | .connected => { view with statusMessage := "연결됨" }
  | .reconnecting =>
      { view with
        statusMessage := "연결 끊김 - 재연결 시도 중..." }.clearStaleEntities
  | .disconnected => { view with statusMessage := "연결되지 않음" }

variable [DoubleArith D]

/-- `formatF1` is the format `F1` of a `float`. -/
def poll (formatF1 : FloatBits → String) (view : EntityView D)
    (answers : PollAnswers D) : EntityView D :=
  let view := view.applyConnectionState answers.connectionState
  if !view.isConnected then view
  else
    let entities := (view.entities.showAll answers).prune answers
    let myVm := entities.myVm answers
    let entities := entities.draw answers
    { view with
      entities
      myEntityIdText :=
        match answers.myEntityId with
        | some id => toString id.toNat
        | none => "-"
      myPositionText :=
        match myVm.bind fun ref => entities.objects[ref]? with
        | some vm =>
            "X: " ++ formatF1 vm.positionX ++ "  Y: " ++ formatF1 vm.positionY
        | none => "-"
      metrics := some answers.metrics }

/-- A new window and the `Poll`s of its timer. -/
def run (formatF1 : FloatBits → String) (polls : List (PollAnswers D)) :
    EntityView D :=
  polls.foldl (poll formatF1) {}

end EntityView

/-! ## What a Poll makes of the entities -/

/-- Each view model is in the collection and in the dictionary, under the
id it was made with. -/
abbrev ViewModels.InStep {D : Type} (t : ViewModels D) : Prop :=
  KeyedObjects.InStep EntityViewModel.entityId t

/-- As floats; `SetProperty` may leave another NaN or another 0. -/
structure EntityViewModel.Shows {D : Type} (vm : EntityViewModel D)
    (entity : ManagedEntityInfo) : Prop where
  positionX : Single.equals vm.positionX entity.positionX = true
  positionY : Single.equals vm.positionY entity.positionY = true
  heading : Single.equals vm.heading entity.heading = true

/-- The window shows the entities it was told of, on the view models it
already had for them. -/
structure ViewModels.Follows {D : Type} (before after : ViewModels D)
    (answers : PollAnswers D) : Prop where
  ids : ∀ id, id ∈ after.lookup ↔ id ∈ answers.seenIds
  shownIds : ∀ id,
    id ∈ after.items.map EntityViewModel.entityId ↔ id ∈ answers.seenIds
  same : ∀ id ref, before.find id = some ref → id ∈ after.lookup →
    after.find id = some ref
  mine : ∀ vm ∈ after.items,
    vm.isMine = (answers.myEntityId == some vm.entityId)
  mine_le_one : after.items.countP EntityViewModel.isMine ≤ 1

namespace ViewModels

open KeyedObjects

variable {D : Type} {t : ViewModels D}

theorem entityId_update (myEntityId : Option UInt32)
    (entity : ManagedEntityInfo) (vm : EntityViewModel D) :
    (update myEntityId entity vm).entityId = vm.entityId := rfl

theorem isMine_update (myEntityId : Option UInt32)
    (entity : ManagedEntityInfo) (vm : EntityViewModel D) :
    (update myEntityId entity vm).isMine
      = (myEntityId == some entity.entityId) :=
  setProperty_beq _ _

theorem update_shows (myEntityId : Option UInt32)
    (entity : ManagedEntityInfo) (vm : EntityViewModel D) :
    (update myEntityId entity vm).Shows entity where
  positionX := equals_setProperty Single.equals_self _ _
  positionY := equals_setProperty Single.equals_self _ _
  heading := equals_setProperty Single.equals_self _ _

/-- Pruning keeps what was seen. -/
theorem find_prune (t : ViewModels D) (answers : PollAnswers D)
    (id : UInt32) : (t.prune answers).find id
      = if id ∈ answers.seenIds then t.find id else none := by
  unfold prune
  rw [find_removeAll]
  by_cases hseen : id ∈ answers.seenIds
  · rw [if_neg (by simp [hseen]), if_pos hseen]
  · rw [if_neg hseen]
    split
    · rfl
    · rename_i hkey
      have hnone : id ∉ t.lookup := fun hmem =>
        hkey (List.mem_filter.mpr ⟨hmem, by simpa using hseen⟩)
      exact AList.lookup_eq_none.mpr hnone

theorem InStep.prune (h : t.InStep) (answers : PollAnswers D) :
    (t.prune answers).InStep :=
  h.removeAll _

/-- At most one id is the client's own. -/
theorem InStep.mine_le_one (h : t.InStep) {myEntityId : Option UInt32}
    (hmine : ∀ vm ∈ t.items, vm.isMine = (myEntityId == some vm.entityId)) :
    t.items.countP EntityViewModel.isMine ≤ 1 := by
  cases myEntityId with
  | none =>
      have hnone : t.items.countP EntityViewModel.isMine = 0 := by
        refine List.countP_eq_zero.mpr fun vm hvm => ?_
        rw [hmine vm hvm]
        exact Bool.false_ne_true
      omega
  | some id =>
      calc t.items.countP EntityViewModel.isMine
          = t.items.countP ((· == id) ∘ EntityViewModel.entityId) := by
            refine List.countP_congr fun vm hvm => ?_
            rw [hmine vm hvm, Function.comp_apply, beq_iff_eq, beq_iff_eq,
              Option.some_inj]
            exact eq_comm
        _ = (t.items.map EntityViewModel.entityId).count id := by
            rw [List.count, List.countP_map]
        _ ≤ 1 := List.nodup_iff_count_le_one.mp h.keys_nodup id

section

variable [DoubleArith D]

theorem entityId_new (id : UInt32) :
    (EntityViewModel.new id : EntityViewModel D).entityId = id :=
  setProperty_beq 0 id

theorem InStep.showAll (h : t.InStep) (answers : PollAnswers D) :
    (t.showAll answers).InStep :=
  h.upsertAll (fun _ => entityId_new _) (entityId_update _) _

theorem InStep.draw (h : t.InStep) (answers : PollAnswers D) :
    (t.draw answers).InStep :=
  h.modifyAll fun _ => rfl

/-- What a connected `Poll` does to the entities. -/
def refresh (t : ViewModels D) (answers : PollAnswers D) : ViewModels D :=
  ((t.showAll answers).prune answers).draw answers

theorem InStep.refresh (h : t.InStep) (answers : PollAnswers D) :
    (t.refresh answers).InStep :=
  ((h.showAll answers).prune answers).draw answers

theorem find_refresh (t : ViewModels D) (answers : PollAnswers D)
    (id : UInt32) : (t.refresh answers).find id
      = if id ∈ answers.seenIds then (t.showAll answers).find id else none :=
  find_prune (t.showAll answers) answers id

theorem mem_refresh (t : ViewModels D) (answers : PollAnswers D)
    (id : UInt32) :
    id ∈ (t.refresh answers).lookup ↔ id ∈ answers.seenIds := by
  rw [mem_lookup_iff, find_refresh]
  split
  · rename_i hseen
    refine iff_of_true ?_ hseen
    exact mem_lookup_iff.mp (mem_upsertAll.mpr (.inl hseen))
  · rename_i hseen
    exact iff_of_false (by rintro ⟨_, ⟨⟩⟩) hseen

/-- Whatever the loop makes of the view models, and drawing leaves, holds of
those that are shown. -/
theorem InStep.refresh_items (h : t.InStep) (answers : PollAnswers D)
    {Q : UInt32 → EntityViewModel D → Prop}
    (hupdate : ∀ entity ∈ answers.entities, ∀ vm,
      Q entity.entityId (update answers.myEntityId entity vm))
    (hdraw : ∀ id vm x y heading, Q id vm →
      Q id (vm.updateCanvasPosition x y heading)) :
    ∀ vm ∈ (t.refresh answers).items, Q vm.entityId vm := by
  intro vm hvm
  obtain ⟨id, hvalue⟩ := (h.refresh answers).mem_items.mp hvm
  have hid := (h.refresh answers).valueAt_key hvalue
  have hseen : id ∈ answers.seenIds := by
    refine (mem_refresh t answers id).mp ?_
    exact ((h.refresh answers).mem_keys id).mp
      (List.mem_map.mpr ⟨vm, hvm, hid⟩)
  rw [hid]
  rw [ViewModels.refresh, ViewModels.draw,
    ((h.showAll answers).prune answers).valueAt_modifyAll] at hvalue
  obtain ⟨shown, hshown, rfl⟩ := Option.map_eq_some_iff.mp hvalue
  refine hdraw id shown _ _ _ ?_
  rw [ViewModels.prune, valueAt_removeAll (by simp [hseen])] at hshown
  exact h.upsertAll_holds (fun _ => entityId_new _) (entityId_update _)
    answers.entities hupdate id hseen shown hshown

theorem InStep.refresh_follows (h : t.InStep) (answers : PollAnswers D) :
    t.Follows (t.refresh answers) answers := by
  have hmine : ∀ vm ∈ (t.refresh answers).items,
      vm.isMine = (answers.myEntityId == some vm.entityId) :=
    h.refresh_items answers
      (Q := fun id vm => vm.isMine = (answers.myEntityId == some id))
      (fun entity _ vm => isMine_update _ entity vm)
      (fun _ _ _ _ _ hvm => hvm)
  refine ⟨mem_refresh t answers, fun id => ?_, fun id ref href hmem => ?_,
    hmine, (h.refresh answers).mine_le_one hmine⟩
  · rw [(h.refresh answers).mem_keys, mem_refresh]
  · rw [find_refresh, if_pos ((mem_refresh t answers id).mp hmem)]
    exact find_upsertAll_of_some href

/-- Each of them shows an entity of its id. -/
theorem InStep.refresh_shows (h : t.InStep) (answers : PollAnswers D) :
    ∀ vm ∈ (t.refresh answers).items, ∃ entity ∈ answers.entities,
      entity.entityId = vm.entityId ∧ vm.Shows entity :=
  h.refresh_items answers
    (Q := fun id vm => ∃ entity ∈ answers.entities,
      entity.entityId = id ∧ vm.Shows entity)
    (fun entity hentity vm => ⟨entity, hentity, rfl, update_shows _ _ vm⟩)
    (fun _ _ _ _ _ ⟨entity, hentity, hid, hpositionX, hpositionY, hheading⟩ =>
      ⟨entity, hentity, hid, hpositionX, hpositionY, hheading⟩)

end

end ViewModels

/-! ## Poll after Poll -/

namespace EntityView

variable {D : Type} {view : EntityView D}

/-- The early return leaves two empty containers. -/
theorem clearStaleEntities_empty (h : view.entities.InStep) :
    view.clearStaleEntities.entities.shown = []
      ∧ view.clearStaleEntities.entities.lookup = ∅ := by
  unfold clearStaleEntities
  split
  · rename_i hcount
    have hshown := List.length_eq_zero_iff.mp hcount
    exact ⟨hshown, h.lookup_eq_empty hshown⟩
  · exact ⟨rfl, rfl⟩

theorem clearStaleEntities_inStep (h : view.entities.InStep) :
    view.clearStaleEntities.entities.InStep := by
  unfold clearStaleEntities
  split
  · exact h
  · exact .clear _

theorem clearStaleEntities_isConnected (view : EntityView D) :
    view.clearStaleEntities.isConnected = view.isConnected := by
  unfold clearStaleEntities
  split <;> rfl

theorem applyConnectionState_isConnected (view : EntityView D)
    (state : ConnectionState) :
    (view.applyConnectionState state).isConnected
      = (state == .connected) := by
  have hbase : (view.toMainViewModel.applyConnectionState state).isConnected
      = (state == .connected) := by
    unfold MainViewModel.applyConnectionState
    dsimp only
    split <;> rfl
  cases state with
  | reconnecting => exact (clearStaleEntities_isConnected _).trans hbase
  | _ => exact hbase

variable [DoubleArith D] {formatF1 : FloatBits → String}
  {answers : PollAnswers D}

theorem poll_of_not_connected (h : answers.connectionState ≠ .connected) :
    view.poll formatF1 answers
      = view.applyConnectionState answers.connectionState := by
  unfold poll
  dsimp only
  rw [applyConnectionState_isConnected, beq_false_of_ne h]
  rfl

theorem poll_connected (h : answers.connectionState = .connected) :
    (view.poll formatF1 answers).entities
      = view.entities.refresh answers := by
  unfold poll
  dsimp only
  rw [applyConnectionState_isConnected, h]
  rfl

theorem poll_disconnected (h : answers.connectionState = .disconnected) :
    (view.poll formatF1 answers).entities = view.entities := by
  rw [poll_of_not_connected (by rw [h]; decide), h]
  rfl

theorem poll_reconnecting (hview : view.entities.InStep)
    (h : answers.connectionState = .reconnecting) :
    (view.poll formatF1 answers).entities.shown = []
      ∧ (view.poll formatF1 answers).entities.lookup = ∅ := by
  rw [poll_of_not_connected (by rw [h]; decide), h]
  exact clearStaleEntities_empty hview

theorem poll_inStep (h : view.entities.InStep) (answers : PollAnswers D) :
    (view.poll formatF1 answers).entities.InStep := by
  cases hstate : answers.connectionState with
  | connected =>
      rw [poll_connected hstate]
      exact h.refresh answers
  | disconnected =>
      rw [poll_disconnected hstate]
      exact h
  | reconnecting =>
      rw [poll_of_not_connected (by rw [hstate]; decide), hstate]
      exact clearStaleEntities_inStep h

theorem run_concat (polls : List (PollAnswers D)) (answers : PollAnswers D) :
    run formatF1 (polls ++ [answers])
      = (run formatF1 polls).poll formatF1 answers := by
  rw [run, List.foldl_append, ← run]
  rfl

theorem run_inStep (polls : List (PollAnswers D)) :
    (run formatF1 polls).entities.InStep := by
  induction polls using List.reverseRecOn with
  | nil => exact KeyedObjects.InStep.empty
  | append_singleton polls answers ih =>
      rw [run_concat]
      exact poll_inStep ih answers

/-- After every `Poll` the collection and the dictionary have the same view
models, each once and under its own id. One that saw `Connected` leaves the
ids the client gave, on the view models there were, at most one of them the
client's own; one that saw `Reconnecting` leaves nothing. -/
theorem view_in_step (formatF1 : FloatBits → String)
    (earlier : List (PollAnswers D)) (last : PollAnswers D) :
    let before := (run formatF1 earlier).entities
    let after := (run formatF1 (earlier ++ [last])).entities
    after.InStep
      ∧ (last.connectionState = .connected → before.Follows after last)
      ∧ (last.connectionState = .reconnecting →
        after.shown = [] ∧ after.lookup = ∅) := by
  intro before after
  have hbefore : before.InStep := run_inStep earlier
  have hafter : after
      = ((run formatF1 earlier).poll formatF1 last).entities :=
    congrArg (·.entities) (run_concat earlier last)
  refine ⟨run_inStep _, fun hstate => ?_, fun hstate => ?_⟩
  · rw [hafter, poll_connected hstate]
    exact hbefore.refresh_follows last
  · rw [hafter]
    exact poll_reconnecting hbefore hstate

/-! ## The client's world -/

/-- A view model for every entity of the world the client was asked for,
with its state. -/
theorem shown_world (earlier : List (PollAnswers D)) {last : PollAnswers D}
    (hstate : last.connectionState = .connected) {world : EntityWorld}
    (hworld : world.Keyed)
    (hentities : last.entities = ManagedGameClient.getEntities world) :
    let shown := (run formatF1 (earlier ++ [last])).entities.items
    (shown.map EntityViewModel.entityId).Perm world.entities.keys
      ∧ ∀ vm ∈ shown, ∃ entity ∈ ManagedGameClient.getEntities world,
        entity.entityId = vm.entityId ∧ vm.Shows entity := by
  intro shown
  have hbefore : (run formatF1 earlier).entities.InStep := run_inStep earlier
  have hshown : shown
      = ((run formatF1 earlier).entities.refresh last).items := by
    rw [← poll_connected hstate, ← run_concat]
  rw [hshown]
  constructor
  · refine (List.perm_ext_iff_of_nodup (hbefore.refresh last).keys_nodup
      world.entities.keys_nodup).mpr fun id => ?_
    rw [(hbefore.refresh_follows last).shownIds, PollAnswers.seenIds,
      hentities, ManagedGameClient.getEntities, List.map_map]
    exact EntityWorld.mem_getSnapshot_iff hworld id
  · rw [← hentities]
    exact hbefore.refresh_shows last

end EntityView

end NetworkControl
