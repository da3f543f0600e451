import AutowareAgent.Lanes
import AutowareAgent.Machines

/-!
`ClusterBridge`: the messages that it is subscribed to, the state that their
handlers keep, and the frame that is built of the state 60 times a second.
Handlers and ticks run on one strand, each of them as a whole. A message is
delivered when its handler runs. Numbers are of two types, `double` and `float`.
-/
namespace AutowareAgent.Clusters
open AutowareAgent.Machines AutowareAgent.Lanes

/-- The conversions between `double` and `float`. -/
class Floats (R F : Type) where
  toFloat : R → F
  toDouble : F → R

/-! ### Messages

An enumeration of a message is a byte; `Other` is any value without a name. -/

/-- `ObjectClassification::label`. -/
inductive Label
  | Car
  | Truck
  | Bus
  | Trailer
  | Motorcycle
  | Bicycle
  | Pedestrian
  | Animal
  | Other
  deriving DecidableEq, Repr

structure Vector3 (R : Type) where
  x : R
  y : R
  z : R
  deriving DecidableEq, Repr

structure Quaternion (R : Type) where
  x : R
  y : R
  z : R
  w : R
  deriving DecidableEq, Repr

/-- `PredictedObject`: the labels of its classification, and its first pose and twist. -/
structure PredictedObject (R F : Type) where
  existenceProbability : F
  classification : List Label
  position : Vector3 R
  orientation : Quaternion R
  linear : Vector3 R
  dimensions : Vector3 R
  deriving DecidableEq, Repr

/-- `PredictedObjects`. The length of a sequence is sent in 32 bits. -/
structure PredictedObjects (R F : Type) where
  objects : List (PredictedObject R F)
  sent : objects.length < 2 ^ 32
  deriving DecidableEq, Repr

/-- `TrafficLightElement::color`. -/
inductive LightColor
  | Red
  | Amber
  | Green
  | Other
  deriving DecidableEq, Repr

structure TrafficLightElement (F : Type) where
  color : LightColor
  confidence : F
  deriving DecidableEq, Repr

structure TrafficLightGroup (F : Type) where
  trafficLightGroupId : Int64
  elements : List (TrafficLightElement F)
  deriving DecidableEq, Repr

/-- `TrafficLightGroupArray`. -/
structure TrafficLightGroupArray (F : Type) where
  trafficLightGroups : List (TrafficLightGroup F)
  deriving DecidableEq, Repr

inductive GearReport
  | Park
  | Reverse
  | Neutral
  | Drive
  | Other
  deriving DecidableEq, Repr

inductive TurnIndicatorsReport
  | EnableLeft
  | EnableRight
  | Other
  deriving DecidableEq, Repr

inductive ControlModeReport
  | Autonomous
  | Other
  deriving DecidableEq, Repr

/-- `MotionState::state` of the vehicle's interface. -/
inductive MotionReport
  | Stopped
  | Starting
  | Moving
  | Other
  deriving DecidableEq, Repr

/-- `MrmState::state`. -/
inductive MrmStateReport
  | Unknown
  | Normal
  | MrmOperating
  | MrmSucceeded
  | MrmFailed
  | Other
  deriving DecidableEq, Repr

/-- `MrmState::behavior`. -/
inductive MrmBehaviorReport
  | EmergencyStop
  | PullOver
  | Other
  deriving DecidableEq, Repr

/-- What the bridge is subscribed to, with what the handlers read of it. -/
inductive Message (R F : Type)
  | Velocity (longitudinalVelocity : F)
  | Gear (report : GearReport)
  | Steering (steeringTireAngle : F)
  | HazardLights (report : UInt8)
  | TurnIndicators (report : TurnIndicatorsReport)
  | ControlMode (mode : ControlModeReport)
  | BatteryStatus (energyLevel : F)
  | Kinematics (accelX angularZ longitude latitude : R)
  | MotionState (state : MotionReport)
  | TargetVelocity (data : F)
  | VelocityLimit (maxVelocity : F)
  | Eta (remainingDistance remainingTime : R)
  | TrafficSignals (msg : TrafficLightGroupArray F)
  | Objects (msg : PredictedObjects R F)
  | MrmState (state : MrmStateReport) (behavior : MrmBehaviorReport)
  deriving DecidableEq, Repr

/-! ### Frames -/

inductive GearState
  | Unknown
  | Park
  | Reverse
  | Neutral
  | Drive
  deriving DecidableEq, Repr

inductive TurnSignal
  | None
  | Left
  | Right
  deriving DecidableEq, Repr

inductive ControlMode
  | Unknown
  | Manual
  | Auto
  deriving DecidableEq, Repr

inductive MotionState
  | Unknown
  | Stopped
  | Moving
  | Decelerating
  deriving DecidableEq, Repr

inductive MrmBehavior
  | None
  | PullOver
  | EmergencyStop
  deriving DecidableEq, Repr

structure VelocityData (F : Type) where
  speedMps : F
  speedKmh : F
  deriving DecidableEq, Repr

structure KinematicsData (F : Type) where
  accelMps2 : F
  yawRate : F
  deriving DecidableEq, Repr

/-- `AdasSummary`. A field that is not set is zero. -/
structure AdasSummary where
  obstacleCount : UInt32 := 0
  trafficLightRed : Bool := false
  trafficLightYellow : Bool := false
  trafficLightGreen : Bool := false
  pedestrianCount : UInt32 := 0
  vehicleCount : UInt32 := 0
  deriving DecidableEq, Repr

structure SurroundObject (F : Type) where
  x : F
  y : F
  vx : F
  vy : F
  type : String
  deriving DecidableEq, Repr

structure EtaData (F : Type) where
  remainingDistanceM : F
  remainingTimeS : F
  deriving DecidableEq, Repr

structure MrmState where
  isActive : Bool
  behavior : MrmBehavior
  description : String
  deriving DecidableEq, Repr

/-- `VehicleFrame`, without the metrics that are never set. -/
structure VehicleFrame (F : Type) where
  stampNs : Int64
  seq : UInt64
  velocity : VelocityData F
  mrm : MrmState
  gear : GearState
  targetSpeedMps : F
  turnSignal : TurnSignal
  surroundObjects : List (SurroundObject F)
  speedLimitMps : F
  controlMode : ControlMode
  adas : AdasSummary
  kinematics : KinematicsData F
  motionState : MotionState
  steeringAngleDeg : F
  batteryPct : F
  hazardOn : Bool
  eta : EtaData F
  deriving DecidableEq, Repr

structure FrameState (R F : Type) where
  speedMps : F
  speedKmh : F
  gear : GearState
  steeringAngleDeg : F
  hazardOn : Bool
  turnSignal : TurnSignal
  controlMode : ControlMode
  batteryPct : F
  accelMps2 : F
  yawRate : F
  motionState : MotionState
  targetSpeedMps : F
  speedLimitMps : F
  remainingDistanceM : F
  remainingTimeS : F
  trafficLightRed : Bool
  trafficLightYellow : Bool
  trafficLightGreen : Bool
  obstacleCount : UInt32
  pedestrianCount : UInt32
  vehicleCount : UInt32
  surroundObjects : List (SurroundObject F)
  mrmBehavior : MrmBehavior
  isActive : Bool
  description : String
  longitude : R
  latitude : R
  deriving DecidableEq, Repr

/-- `FrameState{}`. -/
def FrameState.initial {R F : Type} [Zero R] [Zero F] : FrameState R F where
  speedMps := 0
  speedKmh := 0
  gear := .Unknown
  steeringAngleDeg := 0
  hazardOn := false
  turnSignal := .None
  controlMode := .Unknown
  batteryPct := 0
  accelMps2 := 0
  yawRate := 0
  motionState := .Unknown
  targetSpeedMps := 0
  speedLimitMps := 0
  remainingDistanceM := 0
  remainingTimeS := 0
  trafficLightRed := false
  trafficLightYellow := false
  trafficLightGreen := false
  obstacleCount := 0
  pedestrianCount := 0
  vehicleCount := 0
  surroundObjects := []
  mrmBehavior := .None
  isActive := false
  description := ""
  longitude := 0
  latitude := 0

/-! ### Handlers -/

def toGear : GearReport → GearState
  | .Park => .Park
  | .Reverse => .Reverse
  | .Neutral => .Neutral
  | .Drive => .Drive
  | .Other => .Unknown

def toTurn : TurnIndicatorsReport → TurnSignal
  | .EnableLeft => .Left
  | .EnableRight => .Right
  | .Other => .None

def toCtrlMode : ControlModeReport → ControlMode
  | .Autonomous => .Auto
  | .Other => .Manual

def toMotionState : MotionReport → MotionState
  | .Stopped => .Stopped
  | .Moving => .Moving
  | .Starting => .Decelerating
  | .Other => .Unknown

def toHazard (v : UInt8) : Bool :=
  if v = 1 then false else if v = 2 then true else false

def toMrmState : MrmBehaviorReport → MrmBehavior
  | .EmergencyStop => .EmergencyStop
  | .PullOver => .PullOver
  | .Other => .None

/-- The text that describes a state of the minimum risk manoeuvre. -/
def mrmDescription : MrmStateReport → String
  | .Normal => "Normal"
  | .MrmOperating => "MRM Operating"
  | .MrmSucceeded => "MRM Succeeded"
  | .MrmFailed => "MRM Failed"
  | .Unknown | .Other => "Unknown"

/-- The labels that count as vehicles. -/
def isVehicle : Label → Bool
  | .Car | .Truck | .Bus | .Trailer | .Motorcycle => true
  | _ => false

/-- The counters of `onObjectsImpl`. -/
structure Counts where
  obstacle : UInt32
  pedestrian : UInt32
  vehicle : UInt32
  deriving DecidableEq, Repr

section
variable {R F : Type}

/-- One turn of the loop that counts objects. -/
def countObject (n : Counts) (object : PredictedObject R F) : Counts :=
  match object.classification with
  | [] => n
  | label :: _ =>
    let n :=
      if isVehicle label then { n with vehicle := n.vehicle + 1 }
      else if label = .Pedestrian then { n with pedestrian := n.pedestrian + 1 }
      else n
    { n with obstacle := n.obstacle + 1 }

/-- `onObjectsImpl`. -/
def onObjectsImpl (msg : PredictedObjects R F) (s : FrameState R F) : FrameState R F :=
  let n := msg.objects.foldl countObject ⟨0, 0, 0⟩
  { s with obstacleCount := n.obstacle, pedestrianCount := n.pedestrian, vehicleCount := n.vehicle }

end

section
variable {F : Type}

/-- The three flags of `onTrafficSignalsImpl`. -/
structure Signals where
  red : Bool
  green : Bool
  yellow : Bool
  deriving DecidableEq, Repr

/-- One turn of the inner loop over the elements of a group. -/
def noteElement (n : Signals) (ele : TrafficLightElement F) : Signals :=
  { red := if ele.color = .Red then true else n.red
    green := if ele.color = .Green then true else n.green
    yellow := if ele.color = .Amber then true else n.yellow }

/-- `onTrafficSignalsImpl`. -/
def onTrafficSignalsImpl {R : Type} (msg : TrafficLightGroupArray F) (s : FrameState R F) : FrameState R F :=
  let n := msg.trafficLightGroups.foldl (fun n group => group.elements.foldl noteElement n) ⟨false, false, false⟩
  { s with trafficLightRed := n.red, trafficLightGreen := n.green, trafficLightYellow := n.yellow }

end

section
variable {R F : Type} [Floats R F] [NatCast F] [Div F] [LT F] [DecidableLT F]

/-- `object.existence_probability < 0.5f`. -/
def improbable (object : PredictedObject R F) : Bool :=
  decide (object.existenceProbability < ((1 : Nat) : F) / ((2 : Nat) : F))

/-- What an object with the label is shown as. -/
def surroundObject (label : Label) (object : PredictedObject R F) : SurroundObject F where
  x := Floats.toFloat object.position.x
  y := Floats.toFloat object.position.y
  vx := Floats.toFloat object.linear.x
  vy := Floats.toFloat object.linear.y
  type := if label = .Pedestrian then "PEDESTRIAN" else if isVehicle label then "VEHICLE" else "UNKNOWN"

/-- One turn of the loop that collects what is shown. -/
def pushSurround (surrounds : List (SurroundObject F)) (object : PredictedObject R F) : List (SurroundObject F) :=
  match object.classification with
  | [] => surrounds
  | label :: _ => if improbable object then surrounds else surrounds ++ [surroundObject label object]

/-- `onSurroundObjectsImpl`. -/
def onSurroundObjectsImpl (msg : PredictedObjects R F) (s : FrameState R F) : FrameState R F :=
  { s with surroundObjects := msg.objects.foldl pushSurround [] }

/-- `onObjects`: what it posts to the strand. -/
def onObjects (msg : PredictedObjects R F) (s : FrameState R F) : FrameState R F :=
  onObjectsImpl msg (onSurroundObjectsImpl msg s)

variable [Mul F] [CMath F]

/-- The handler of a message. -/
def onMessage (s : FrameState R F) : Message R F → FrameState R F
  | .Velocity longitudinalVelocity =>
    { s with
      speedMps := longitudinalVelocity
      speedKmh := longitudinalVelocity * (((36 : Nat) : F) / ((10 : Nat) : F)) }
  | .Gear report => { s with gear := toGear report }
  | .Steering steeringTireAngle =>
    { s with steeringAngleDeg := steeringTireAngle * (((180 : Nat) : F) / CMath.pi) }
  | .HazardLights report => { s with hazardOn := toHazard report }
  | .TurnIndicators report => { s with turnSignal := toTurn report }
  | .ControlMode mode => { s with controlMode := toCtrlMode mode }
  | .BatteryStatus energyLevel => { s with batteryPct := energyLevel * ((100 : Nat) : F) }
  | .Kinematics accelX angularZ longitude latitude =>
    { s with
      accelMps2 := Floats.toFloat accelX
      yawRate := Floats.toFloat angularZ
      longitude := longitude
      latitude := latitude }
  | .MotionState state => { s with motionState := toMotionState state }
  | .TargetVelocity data => { s with targetSpeedMps := data }
  | .VelocityLimit maxVelocity => { s with speedLimitMps := maxVelocity }
  | .Eta remainingDistance remainingTime =>
    { s with
      remainingDistanceM := Floats.toFloat remainingDistance
      remainingTimeS := Floats.toFloat remainingTime }
  | .TrafficSignals msg => onTrafficSignalsImpl msg s
  | .Objects msg => onObjects msg s
  | .MrmState state behavior =>
    { s with
      isActive := decide (state ≠ .Normal ∧ state ≠ .Unknown)
      mrmBehavior := toMrmState behavior
      description := mrmDescription state }

end

/-! ### The bridge -/

section
variable {R F : Type}

/-- `buildFrame`. -/
def buildFrame (stampNs : Int64) (seq : UInt64) (s : FrameState R F) : VehicleFrame F where
  stampNs := stampNs
  seq := seq
  velocity := { speedMps := s.speedMps, speedKmh := s.speedKmh }
  gear := s.gear
  steeringAngleDeg := s.steeringAngleDeg
  hazardOn := s.hazardOn
  turnSignal := s.turnSignal
  controlMode := s.controlMode
  batteryPct := s.batteryPct
  kinematics := { accelMps2 := s.accelMps2, yawRate := s.yawRate }
  motionState := s.motionState
  targetSpeedMps := s.targetSpeedMps
  speedLimitMps := s.speedLimitMps
  eta := { remainingDistanceM := s.remainingDistanceM, remainingTimeS := s.remainingTimeS }
  -- `obstacle_count` is not among the fields that are set
  adas := {
    trafficLightRed := s.trafficLightRed
    trafficLightGreen := s.trafficLightGreen
    trafficLightYellow := s.trafficLightYellow
    pedestrianCount := s.pedestrianCount
    vehicleCount := s.vehicleCount }
  surroundObjects := s.surroundObjects
  mrm := { isActive := s.isActive, description := s.description, behavior := s.mrmBehavior }

/-- The members of `ClusterBridge` that its strand uses. -/
structure ClusterBridge (R F : Type) where
  state : FrameState R F
  frameSeq : UInt64
  deriving DecidableEq, Repr

/-- What the strand runs next. -/
inductive Input (R F : Type)
  | Message (msg : Message R F)
  | Tick (stampNs : Int64)
  deriving DecidableEq, Repr

variable [Floats R F] [NatCast F] [Div F] [LT F] [DecidableLT F] [Mul F] [CMath F]

/-- One step: a handler, or `onTick`, which publishes a frame. Neither fails. -/
def step (b : ClusterBridge R F) : Input R F → Except Empty (ClusterBridge R F × List (VehicleFrame F))
  | .Message msg => .ok ({ b with state := onMessage b.state msg }, [])
  | .Tick stampNs => .ok ({ b with frameSeq := b.frameSeq + 1 }, [buildFrame stampNs b.frameSeq b.state])

variable [Zero R] [Zero F]

def machine : Machine (ClusterBridge R F) (Input R F) (VehicleFrame F) Empty where
  Start b := b = ⟨.initial, 0⟩
  step := step

end

/-! ### What the counters count -/

section
variable {R F : Type}

/-- The object is of a kind by its first label. -/
def ofKind (kind : Label → Bool) (object : PredictedObject R F) : Bool := object.classification.head?.any kind

/-- The object has a classification. -/
def classified (object : PredictedObject R F) : Bool := ofKind (fun _ => true) object

/-- The object is a pedestrian by its first label. -/
abbrev pedestrian (object : PredictedObject R F) : Bool := ofKind (fun label => label = .Pedestrian) object

/-- The object is a vehicle by its first label. -/
abbrev vehicle (object : PredictedObject R F) : Bool := ofKind isVehicle object

theorem ofKind_classified {kind : Label → Bool} {object : PredictedObject R F} (own : ofKind kind object = true) :
    classified object = true := by
  unfold classified ofKind at *
  cases labels : object.classification with
  | nil => simp [labels] at own
  | cons label rest => rfl

/-- What the counters say of some objects. -/
def countsOf (objects : List (PredictedObject R F)) : Counts where
  obstacle := .ofNat (objects.countP classified)
  pedestrian := .ofNat (objects.countP pedestrian)
  vehicle := .ofNat (objects.countP vehicle)

theorem countObject_eq (n : Counts) (object : PredictedObject R F) :
    countObject n object =
      ⟨n.obstacle + .ofNat (classified object).toNat, n.pedestrian + .ofNat (pedestrian object).toNat,
        n.vehicle + .ofNat (vehicle object).toNat⟩ := by
  unfold countObject classified pedestrian vehicle ofKind
  cases object.classification with
  | nil => simp
  | cons label rest => cases label <;> simp [isVehicle]

theorem countObjects_eq (objects : List (PredictedObject R F)) :
    objects.foldl countObject ⟨0, 0, 0⟩ = countsOf objects := by
  induction objects using List.reverseRecOn with
  | nil => rfl
  | append_singleton objects object ih =>
    have last : ∀ kind : PredictedObject R F → Bool,
        UInt32.ofNat ((objects ++ [object]).countP kind) =
          .ofNat (objects.countP kind) + .ofNat (kind object).toNat := by
      intro kind
      rw [List.countP_append, UInt32.ofNat_add, List.countP_singleton]
      cases kind object <;> rfl
    rw [List.foldl_append, ih, List.foldl_cons, List.foldl_nil, countObject_eq]
    simp only [countsOf, last]

/-- No counter overflows. -/
theorem countP_toNat (msg : PredictedObjects R F) (kind : PredictedObject R F → Bool) :
    (UInt32.ofNat (msg.objects.countP kind)).toNat = msg.objects.countP kind :=
  UInt32.toNat_ofNat_of_lt' (Nat.lt_of_le_of_lt List.countP_le_length msg.sent)

/-- The two kinds exclude each other. -/
theorem kinds_le (objects : List (PredictedObject R F)) :
    objects.countP vehicle + objects.countP pedestrian ≤ objects.countP classified := by
  induction objects with
  | nil => rfl
  | cons object rest ih =>
    simp only [List.countP_cons]
    have single : (if vehicle object = true then 1 else 0) + (if pedestrian object = true then 1 else 0) ≤
        if classified object = true then 1 else 0 := by
      unfold classified pedestrian vehicle ofKind
      cases object.classification with
      | nil => simp
      | cons label rest => cases label <;> simp [isVehicle]
    omega

end

/-! ### The summary -/

section
variable {R F : Type}

/-- The message about objects that a moment delivers. -/
def objectsOf (m : Moment (ClusterBridge R F) (Input R F) (VehicleFrame F)) : Option (PredictedObjects R F) :=
  match m.input with
  | .Message (.Objects msg) => some msg
  | _ => none

/-- The objects of the message about objects that was delivered last, none before the first. -/
def lastObjects (past : History (ClusterBridge R F) (Input R F) (VehicleFrame F)) : List (PredictedObject R F) :=
  ((past.findSome? objectsOf).map PredictedObjects.objects).getD []

/-- The summary is consistent with the objects that were delivered last. -/
structure Consistent (objects : List (PredictedObject R F)) (adas : AdasSummary) : Prop where
  kinds : adas.vehicleCount.toNat + adas.pedestrianCount.toNat ≤ adas.obstacleCount.toNat
  all : adas.obstacleCount.toNat = objects.countP classified

/-- The frames of a moment are consistent with what was delivered before exactly
    when no object that was delivered last has a classification. -/
def ConsistentIff (past : History (ClusterBridge R F) (Input R F) (VehicleFrame F))
    (m : Moment (ClusterBridge R F) (Input R F) (VehicleFrame F)) : Prop :=
  ∀ frame ∈ m.outputs, Consistent (lastObjects past) frame.adas ↔
    ∀ object ∈ lastObjects past, object.classification = []

/-- The counters that the state stores. -/
def stored (s : FrameState R F) : Counts := ⟨s.obstacleCount, s.pedestrianCount, s.vehicleCount⟩

/-- A summary with all the counters set. -/
def counted (n : Counts) : AdasSummary where
  obstacleCount := n.obstacle
  pedestrianCount := n.pedestrian
  vehicleCount := n.vehicle

theorem classified_nil {objects : List (PredictedObject R F)} :
    objects.countP classified = 0 ↔ ∀ object ∈ objects, object.classification = [] := by
  rw [List.countP_eq_zero]
  refine forall₂_congr fun object _ => ?_
  unfold classified ofKind
  cases object.classification <;> simp

end

section
variable {R F : Type} [Floats R F] [NatCast F] [Div F] [LT F] [DecidableLT F]

theorem stored_onObjects (msg : PredictedObjects R F) (s : FrameState R F) :
    stored (onObjects msg s) = countsOf msg.objects := by
  simp only [onObjects, onObjectsImpl, stored]
  rw [countObjects_eq]

variable [Mul F] [CMath F]

/-- Only messages about objects touch the counters. -/
theorem stored_onMessage (s : FrameState R F) (msg : Message R F) :
    stored (onMessage s msg) = match msg with
      | .Objects msg => countsOf msg.objects
      | _ => stored s := by
  cases msg with
  | Objects msg => exact stored_onObjects msg s
  | _ => rfl

variable [Zero R] [Zero F]
variable {past : History (ClusterBridge R F) (Input R F) (VehicleFrame F)} {b : ClusterBridge R F}

/-- In every run the counters count the objects that were delivered last. -/
theorem stored_run (run : Runs machine past b) : stored b.state = countsOf (lastObjects past) := by
  refine run.invariant (I := fun past b => stored b.state = countsOf (lastObjects past)) ?_ ?_
  · rintro _ rfl
    rfl
  · intro past b i frames b' _ counts stepped
    cases i with
    | Message msg =>
      cases stepped
      rw [stored_onMessage]
      cases msg with
      | Objects msg => rfl
      | _ => exact counts
    | Tick stampNs =>
      cases stepped
      exact counts

/-- The counters themselves are consistent. -/
theorem stored_consistent (run : Runs machine past b) :
    Consistent (lastObjects past) (counted (stored b.state)) := by
  rw [stored_run run]
  cases last : past.findSome? objectsOf with
  | none =>
    have none : lastObjects past = [] := by rw [lastObjects, last]; rfl
    rw [none]
    exact ⟨Nat.le_refl 0, rfl⟩
  | some msg =>
    have own : lastObjects past = msg.objects := by rw [lastObjects, last]; rfl
    rw [own]
    refine ⟨?_, countP_toNat msg classified⟩
    simp only [counted, countsOf, countP_toNat]
    exact kinds_le msg.objects

/-- In every run a frame is consistent exactly when no object that was delivered
    last has a classification: the number of all objects is not among the fields
    that the frame is built of. -/
theorem summary_consistent_iff (run : Runs machine past b) : Along ConsistentIff past := by
  refine run.along fun past b i frames b' earlier stepped frame member => ?_
  have counts := stored_run earlier
  cases i with
  | Message msg =>
    cases stepped
    cases member
  | Tick stampNs =>
    cases stepped
    obtain rfl := List.mem_singleton.mp member
    constructor
    · intro consistent
      exact classified_nil.mp consistent.all.symm
    · intro none
      have all := classified_nil.mpr none
      have kinds := kinds_le (lastObjects past)
      have vehicles : b.state.vehicleCount = .ofNat ((lastObjects past).countP vehicle) :=
        congrArg Counts.vehicle counts
      have pedestrians : b.state.pedestrianCount = .ofNat ((lastObjects past).countP pedestrian) :=
        congrArg Counts.pedestrian counts
      refine ⟨?_, all.symm⟩
      simp only [buildFrame, vehicles, pedestrians]
      rw [show (lastObjects past).countP vehicle = 0 by omega, show (lastObjects past).countP pedestrian = 0 by omega]
      rfl

end

section
attribute [local instance] streetMath

/-- One type of numbers for both. -/
@[reducible] def sameFloats : Floats ℚ ℚ := ⟨id, id⟩

attribute [local instance] sameFloats

/-- A car ahead that moves on. -/
def carAhead : PredictedObject ℚ ℚ where
  existenceProbability := 9 / 10
  classification := [.Car]
  position := ⟨10, 2, 0⟩
  orientation := ⟨0, 0, 0, 1⟩
  linear := ⟨5, 0, 0⟩
  dimensions := ⟨4, 2, 1⟩

/-- A frame is built of one car, and another one of none. -/
theorem summary_consistent_iff_here : ∃ past b, Runs (machine : Machine (ClusterBridge ℚ ℚ) _ _ _) past b ∧
    b.frameSeq = 2 ∧ Along ConsistentIff past := by
  obtain ⟨past, b, run, frames⟩ := exists_run (M := machine) (s := (⟨.initial, 0⟩ : ClusterBridge ℚ ℚ))
    [.Message (.Objects ⟨[carAhead], by decide⟩), .Tick 0, .Message (.Objects ⟨[], by decide⟩), .Tick 16667000]
    rfl (fun _ b => decide (b.frameSeq = 2)) (by decide +kernel)
  exact ⟨past, b, run, by simpa using frames, summary_consistent_iff run⟩

/-- A car is delivered: the next frame counts one vehicle and no obstacle. -/
theorem obstacle_lost : ∃ past b, Runs (machine : Machine (ClusterBridge ℚ ℚ) _ _ _) past b ∧
    ¬ Along (fun past m => ∀ frame ∈ m.outputs, Consistent (lastObjects past) frame.adas) past := by
  have delivered : Runs (machine : Machine (ClusterBridge ℚ ℚ) _ _ _) _ _ :=
    .step (.start rfl) (i := .Message (.Objects ⟨[carAhead], by decide⟩)) rfl
  refine ⟨_, _, .step delivered (i := .Tick 0) rfl, ?_⟩
  intro all
  have summary := all.1 _ (List.mem_singleton.mpr rfl)
  cases summary.all

end
end AutowareAgent.Clusters
