import AutowareAgent.Clusters

/-!
`PerceptionBridge`: the messages about objects, traffic lights, point clouds and
occupancy grids, the state that their handlers keep, and the frame that is built
of it. The filter of the point cloud library is a parameter.
-/
namespace AutowareAgent.Perceptions
open AutowareAgent.Lanes AutowareAgent.Clusters

inductive ObjectClass
  | Unknown
  | Car
  | Truck
  | Bus
  | Trailer
  | Motorcycle
  | Bicycle
  | Pedestrian
  | Animal
  deriving DecidableEq, Repr

inductive CellState
  | Unknown
  | Free
  | Occupied
  deriving DecidableEq, Repr

inductive TrafficLightColor
  | Unknown
  | Red
  | Amber
  | Green
  deriving DecidableEq, Repr

structure BoundingBox (F : Type) where
  length : F
  height : F
  width : F
  deriving DecidableEq, Repr

structure ObjectVelocity (F : Type) where
  vxObject : F
  vyObject : F
  deriving DecidableEq, Repr

/-- `SurroundingObject`. Its pose has coordinates of type `double`. -/
structure SurroundingObject (R F : Type) where
  id : UInt32
  objectClass : ObjectClass
  boundingBox : BoundingBox F
  objectVelocity : ObjectVelocity F
  heading : F
  objectPose : Vector3 R
  deriving DecidableEq, Repr

structure OccupancyGrid (F : Type) where
  resolution : F
  width : UInt32
  height : UInt32
  originX : F
  originY : F
  gridData : List CellState
  deriving DecidableEq, Repr

structure TrafficLight (F : Type) where
  trafficId : Int64
  confidence : F
  trafficLightColor : TrafficLightColor
  deriving DecidableEq, Repr

structure PerceptionFrameState (R F : Type) where
  surroundingObjects : List (SurroundingObject R F)
  pointsCloud : List (Vector3 R)
  occupancyGrid : OccupancyGrid F
  trafficLights : List (TrafficLight F)
  deriving DecidableEq, Repr

structure PerceptionFrame (R F : Type) where
  stampNs : Int64
  seq : UInt64
  surroundingObjects : List (SurroundingObject R F)
  pointsCloud : List (Vector3 R)
  occupancyGrid : OccupancyGrid F
  trafficLights : List (TrafficLight F)
  deriving DecidableEq, Repr

def toObjectClass : Label → ObjectClass
  | .Car => .Car
  | .Truck => .Truck
  | .Bus => .Bus
  | .Trailer => .Trailer
  | .Motorcycle => .Motorcycle
  | .Bicycle => .Bicycle
  | .Pedestrian => .Pedestrian
  | .Animal => .Animal
  | .Other => .Unknown

def toTrafficLightColor : LightColor → TrafficLightColor
  | .Red => .Red
  | .Amber => .Amber
  | .Green => .Green
  | .Other => .Unknown

/-! ### Objects -/

section
variable {R F : Type} [Floats R F] [Add R] [Sub R] [Mul R] [NatCast R] [CMath R]

/-- The heading of an orientation, from `atan2`. -/
def heading (h : Quaternion R) : F :=
  Floats.toFloat (CMath.atan2 (((2 : Nat) : R) * (h.w * h.z + h.x * h.y))
    (((1 : Nat) : R) - ((2 : Nat) : R) * (h.y * h.y + h.z * h.z)))

/-- What an object with the label is shown as. Poses are narrowed before they are stored. -/
def surroundingObject (id : UInt32) (label : Label) (object : PredictedObject R F) : SurroundingObject R F where
  id := id
  objectClass := toObjectClass label
  boundingBox := {
    length := Floats.toFloat object.dimensions.x
    height := Floats.toFloat object.dimensions.z
    width := Floats.toFloat object.dimensions.y }
  objectVelocity := {
    vxObject := Floats.toFloat object.linear.x
    vyObject := Floats.toFloat object.linear.y }
  objectPose := {
    x := Floats.toDouble (Floats.toFloat object.position.x : F)
    y := Floats.toDouble (Floats.toFloat object.position.y : F)
    z := Floats.toDouble (Floats.toFloat object.position.z : F) }
  heading := heading object.orientation

variable [NatCast F] [Div F] [LT F] [DecidableLT F]

/-- One turn of the loop over the objects. -/
def pushSurrounding (shown : List (SurroundingObject R F)) (object : PredictedObject R F) :
    List (SurroundingObject R F) :=
  match object.classification with
  | [] => shown
  | label :: _ =>
    if improbable object then shown else shown ++ [surroundingObject (.ofNat shown.length) label object]

/-- `onSurroundingObjectImpl`. -/
def onSurroundingObjectImpl (msg : PredictedObjects R F) (s : PerceptionFrameState R F) : PerceptionFrameState R F :=
  { s with surroundingObjects := msg.objects.foldl pushSurrounding [] }

end

/-! ### Traffic lights -/

section
variable {F : Type} [LT F] [DecidableLT F]

/-- `std::ranges::max_element` by confidence over the first element and the others:
    of several greatest ones the first. -/
def maxElement (first : TrafficLightElement F) (rest : List (TrafficLightElement F)) : TrafficLightElement F :=
  rest.foldl (fun largest ele => if largest.confidence < ele.confidence then ele else largest) first

/-- One turn of the loop over the groups. -/
def pushLight (lights : List (TrafficLight F)) (group : TrafficLightGroup F) : List (TrafficLight F) :=
  match group.elements with
  | [] => lights
  | first :: rest =>
    let maxx := maxElement first rest
    lights ++ [⟨group.trafficLightGroupId, maxx.confidence, toTrafficLightColor maxx.color⟩]

/-- `onTrafficSignalImpl`. -/
def onTrafficSignalImpl {R : Type} (msg : TrafficLightGroupArray F) (s : PerceptionFrameState R F) :
    PerceptionFrameState R F :=
  { s with trafficLights := msg.trafficLightGroups.foldl pushLight [] }

end

/-! ### Grids, point clouds and frames -/

section
variable {R F : Type}

/-- The parts of `nav_msgs::msg::OccupancyGrid` that are read. -/
structure OccupancyGridMessage (R F : Type) where
  resolution : F
  width : UInt32
  height : UInt32
  originX : R
  originY : R
  data : List Int8

def cellState (cell : Int8) : CellState :=
  if cell = -1 then .Unknown else if cell < 50 then .Free else .Occupied

/-- `onOccupancyGridImpl`. -/
def onOccupancyGridImpl [Floats R F] (msg : OccupancyGridMessage R F) (s : PerceptionFrameState R F) :
    PerceptionFrameState R F :=
  { s with occupancyGrid := {
      resolution := msg.resolution
      width := msg.width
      height := msg.height
      originX := Floats.toFloat msg.originX
      originY := Floats.toFloat msg.originY
      gridData := msg.data.map cellState } }

/-- `onPointCloudImpl`, with the points that the voxel grid leaves of a message. -/
def onPointCloudImpl {β : Type} [Floats R F] (voxelGrid : β → List (Vector3 F)) (isfinite : F → Bool) (msg : β)
    (s : PerceptionFrameState R F) : PerceptionFrameState R F :=
  { s with
    pointsCloud := ((voxelGrid msg).filter fun p => isfinite p.x && isfinite p.y && isfinite p.z).map fun p =>
      ⟨Floats.toDouble p.x, Floats.toDouble p.y, Floats.toDouble p.z⟩ }

/-- `buildFrame`. -/
def buildFrame (stampNs : Int64) (seq : UInt64) (s : PerceptionFrameState R F) : PerceptionFrame R F where
  stampNs := stampNs
  seq := seq
  surroundingObjects := s.surroundingObjects
  pointsCloud := s.pointsCloud
  occupancyGrid := s.occupancyGrid
  trafficLights := s.trafficLights

end
end AutowareAgent.Perceptions
