import Mathlib.Data.Rat.Defs
import NetworkControl.Protocol

/-!
# ClientSession

`Server/ClientSession.cpp`: one connected client, as the server keeps it.
The public operations are atomic here; where the C++ takes several
atomic or locked steps (`Stop` and the streaming worker) the order of
these is the order of the fields written.

The class is generic in `float` through `FloatArith`, since only physics
computes with it. The control socket itself is kept by whoever runs the
session; `isControlConnectionClosed` says whether `stopSession` closed it.
-/

namespace NetworkControl

/-! ## float -/

/-- What the server does with `float`. `ofRat` is a literal, or the
`double` quotient that stands for one, after its cast to `float`. -/
class FloatArith (F : Type) where
  ofRat : Rat → F
  add : F → F → F
  sub : F → F → F
  mul : F → F → F
  neg : F → F
  lt : F → F → Bool
  cos : F → F
  sin : F → F
  ofBits : FloatBits → F
  toBits : F → FloatBits

instance : FloatArith Float32 where
  ofRat q := (Float.ofInt q.num / Float.ofNat q.den).toFloat32
  add := Float32.add
  sub := Float32.sub
  mul := Float32.mul
  neg := Float32.neg
  lt a b := decide (a < b)
  cos := Float32.cos
  sin := Float32.sin
  ofBits := Float32.ofBits
  toBits := Float32.toBits

/-- Exact arithmetic, for runs on a few numbers that a `float` holds
exactly. They keep to heading 0 and look at no bits. -/
instance : FloatArith ℚ where
  ofRat q := q
  add := (· + ·)
  sub := (· - ·)
  mul := (· * ·)
  neg := (- ·)
  lt a b := decide (a < b)
  cos _ := 1
  sin _ := 0
  ofBits _ := 0
  toBits _ := 0

/-! ## The session -/

structure ClientSession (F : Type) where
  sessionId : UInt64
  state : SessionState
  dataRate : DataRate
  nextSequenceId : UInt64
  isControlConnectionClosed : Bool
  udpIpAddress : String
  udpPort : UInt16
  positionX : F
  positionY : F
  heading : F
  speed : F
  velocityX : F
  velocityY : F
  throttle : F
  yaw : F
  lastAppliedControlInputSequenceId : UInt32

namespace ClientSession

open FloatArith

variable {F : Type} [FloatArith F]

def yawRateMaxRadiansPerSecond : F := ofRat 2
def accelerationUnitsPerSecondSquared : F := ofRat 20
def maxSpeedUnitsPerSecond : F := ofRat 50
def dragPerSecond : F := ofRat 1

def clamp (value minValue maxValue : F) : F :=
  if lt value minValue then minValue
  else if lt maxValue value then maxValue
  else value

/-- The constructor and the members' initialisers. -/
def new (sessionId : UInt64) : ClientSession F where
  sessionId
  state := .stopped
  dataRate := .hz30
  nextSequenceId := 0
  isControlConnectionClosed := false
  udpIpAddress := ""
  udpPort := 0
  positionX := ofRat 0
  positionY := ofRat 0
  heading := ofRat 0
  speed := ofRat 0
  velocityX := ofRat 0
  velocityY := ofRat 0
  throttle := ofRat 0
  yaw := ofRat 0
  lastAppliedControlInputSequenceId := 0

/-! ## Commands -/

def play (s : ClientSession F) : ClientSession F :=
  if s.state = .stopped ∨ s.state = .paused then
    { s with state := .playing }
  else s

def pause (s : ClientSession F) : ClientSession F :=
  if s.state = .playing then { s with state := .paused } else s

/-- `lastAppliedControlInputSequenceId` stays as it is. -/
def stop (s : ClientSession F) : ClientSession F :=
  { s with
    state := .stopped
    nextSequenceId := 0
    positionX := ofRat 0
    positionY := ofRat 0
    heading := ofRat 0
    speed := ofRat 0
    velocityX := ofRat 0
    velocityY := ofRat 0
    throttle := ofRat 0
    yaw := ofRat 0 }

def reset (s : ClientSession F) : ClientSession F :=
  { s with nextSequenceId := 0 }

/-- Any other rate is ignored. -/
def setRate (s : ClientSession F) (dataRateHz : UInt32) : ClientSession F :=
  if dataRateHz = DataRate.hz30.toUInt32 then { s with dataRate := .hz30 }
  else if dataRateHz = DataRate.hz60.toUInt32 then
    { s with dataRate := .hz60 }
  else s

def registerUdpEndpoint (s : ClientSession F) (ip : String) (port : UInt16) :
    ClientSession F :=
  { s with udpIpAddress := ip, udpPort := port }

/-! ## Accessors -/

def getEntityId (s : ClientSession F) : UInt32 := s.sessionId.toUInt32

/-- `fetch_add(1) + 1`: the id to use, and the session after it. -/
def getNextSequenceId (s : ClientSession F) : UInt64 × ClientSession F :=
  (s.nextSequenceId + 1, { s with nextSequenceId := s.nextSequenceId + 1 })

def getSentPacketCount (s : ClientSession F) : UInt64 := s.nextSequenceId

def tryGetUdpEndpoint (s : ClientSession F) : Option (String × UInt16) :=
  if s.udpIpAddress.isEmpty || s.udpPort = 0 then none
  else some (s.udpIpAddress, s.udpPort)

/-! ## The entity -/

def applyControlInput (s : ClientSession F) (sequenceId : UInt32)
    (throttle yaw : F) : ClientSession F :=
  if sequenceId ≤ s.lastAppliedControlInputSequenceId then s
  else
    { s with
      lastAppliedControlInputSequenceId := sequenceId
      throttle := clamp throttle (ofRat (-1)) (ofRat 1)
      yaw := clamp yaw (ofRat (-1)) (ofRat 1) }

/-- `dt` is `deltaSeconds` after its cast to `float`. -/
def stepPhysics (s : ClientSession F) (dt : F) : ClientSession F :=
  let heading := add s.heading (mul (mul s.yaw yawRateMaxRadiansPerSecond) dt)
  let speed := add s.speed
    (mul (mul s.throttle accelerationUnitsPerSecondSquared) dt)
  let speed := mul speed
    (clamp (sub (ofRat 1) (mul dragPerSecond dt)) (ofRat 0) (ofRat 1))
  let speed := clamp speed (neg maxSpeedUnitsPerSecond) maxSpeedUnitsPerSecond
  let velocityX := mul (cos heading) speed
  let velocityY := mul (sin heading) speed
  { s with
    heading
    speed
    velocityX
    velocityY
    positionX := add s.positionX (mul velocityX dt)
    positionY := add s.positionY (mul velocityY dt) }

def buildEntityStateEntry (s : ClientSession F) : EntityStateEntry where
  entityId := s.getEntityId
  positionX := toBits s.positionX
  positionY := toBits s.positionY
  heading := toBits s.heading
  velocityX := toBits s.velocityX
  velocityY := toBits s.velocityY

def buildEntitySpawnPayload (s : ClientSession F) : EntitySpawnPayload where
  entityId := s.getEntityId
  type := .playerHelicopter
  positionX := toBits s.positionX
  positionY := toBits s.positionY
  heading := toBits s.heading

/-- `StopSession`: the session after it, and whether this call is the one
that closes the socket. -/
def stopSession (s : ClientSession F) : ClientSession F × Bool :=
  ({ s with state := .stopped, isControlConnectionClosed := true },
    !s.isControlConnectionClosed)

/-! ## The rate only changes through SetRate -/

section

variable (s : ClientSession F)

omit [FloatArith F] in
@[simp] theorem play_dataRate : s.play.dataRate = s.dataRate := by
  rw [play]
  split <;> rfl

omit [FloatArith F] in
@[simp] theorem pause_dataRate : s.pause.dataRate = s.dataRate := by
  rw [pause]
  split <;> rfl

@[simp] theorem stop_dataRate : s.stop.dataRate = s.dataRate := rfl

omit [FloatArith F] in
@[simp] theorem reset_dataRate : s.reset.dataRate = s.dataRate := rfl

omit [FloatArith F] in
@[simp] theorem registerUdpEndpoint_dataRate (ip : String) (port : UInt16) :
    (s.registerUdpEndpoint ip port).dataRate = s.dataRate := rfl

omit [FloatArith F] in
@[simp] theorem setRate_dataRate (dataRate : DataRate) :
    (s.setRate dataRate.toUInt32).dataRate = dataRate := by
  cases dataRate <;> rfl

end

end ClientSession

end NetworkControl
