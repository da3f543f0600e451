import AutowareAgent.Boards
import AutowareAgent.Clusters

/-!
`PlanningBridge`: the messages of the planner, the state that their handlers keep,
and the frame that is built of it 60 times a second. Handlers and ticks run on one
strand, each of them as a whole. A frame shows the latest message of each topic.
-/
namespace AutowareAgent.Plannings
open AutowareAgent.Machines AutowareAgent.Boards
open AutowareAgent.Clusters (Floats Vector3 EtaData sameFloats)

/-! ### Messages

An enumeration of a message is a byte; `Other` is any value without a name. -/

/-- `VelocityFactor::status`. -/
inductive VelocityFactorReport
  | Approaching
  | Stopped
  | Other
  deriving DecidableEq, Repr

/-- `SteeringFactor::direction`. -/
inductive SteeringDirectionReport
  | Left
  | Right
  | Straight
  | Other
  deriving DecidableEq, Repr

/-- `SteeringFactor::status`. -/
inductive SteeringStatusReport
  | Approaching
  | Turning
  | Other
  deriving DecidableEq, Repr

/-- `RouteState::state` of the routing interface. -/
inductive RouteStateReport
  | Unset
  | Set
  | Arrived
  | Changing
  | Other
  deriving DecidableEq, Repr

structure PathPoint (R F : Type) where
  position : Vector3 R
  longitudinalVelocityMps : F
  deriving DecidableEq, Repr

structure LaneletPrimitive where
  id : Int64
  primitiveType : String
  deriving DecidableEq, Repr

structure LaneletSegment where
  preferredPrimitive : LaneletPrimitive
  primitives : List LaneletPrimitive
  deriving DecidableEq, Repr

/-- `LaneletRoute`, with the positions of its poses. -/
structure LaneletRoute (R : Type) where
  startPose : Vector3 R
  goalPose : Vector3 R
  segments : List LaneletSegment
  deriving DecidableEq, Repr

structure VelocityFactorMessage (R : Type) where
  behavior : String
  pose : Vector3 R
  status : VelocityFactorReport
  deriving DecidableEq, Repr

/-- `SteeringFactor`, with the positions of its two poses. -/
structure SteeringFactorMessage (R : Type) where
  behavior : String
  pose : Vector3 R × Vector3 R
  status : SteeringStatusReport
  direction : SteeringDirectionReport
  deriving DecidableEq, Repr

/-- What the bridge is subscribed to, with what the handlers read of it. -/
inductive Message (R F : Type)
  | TrajectoryPoint (points : List (PathPoint R F))
  | FullRoute (msg : LaneletRoute R)
  | TrajectoryLane (points : List (PathPoint R F))
  | VelocityFactor (factors : List (VelocityFactorMessage R))
  | SteeringFactor (factors : List (SteeringFactorMessage R))
  | TargetVelocity (data : F)
  | VelocityLimit (maxVelocity : F)
  | Eta (remainingDistance remainingTime : R)
  | RouteState (state : RouteStateReport)
  | ScenarioState (currentScenario : String) (activatingScenarios : List String)
  deriving DecidableEq, Repr

/-- The topics of the messages. -/
inductive Topic
  | TrajectoryPoint
  | FullRoute
  | TrajectoryLane
  | VelocityFactor
  | SteeringFactor
  | TargetVelocity
  | VelocityLimit
  | Eta
  | RouteState
  | ScenarioState
  deriving DecidableEq, Repr

def Message.topic {R F : Type} : Message R F → Topic
  | .TrajectoryPoint _ => .TrajectoryPoint
  | .FullRoute _ => .FullRoute
  | .TrajectoryLane _ => .TrajectoryLane
  | .VelocityFactor _ => .VelocityFactor
  | .SteeringFactor _ => .SteeringFactor
  | .TargetVelocity _ => .TargetVelocity
  | .VelocityLimit _ => .VelocityLimit
  | .Eta _ _ => .Eta
  | .RouteState _ => .RouteState
  | .ScenarioState _ _ => .ScenarioState

/-! ### Frames -/

inductive VelocityFactorStatus
  | Unknown
  | Approaching
  | Stopped
  deriving DecidableEq, Repr

inductive SteeringDirection
  | Unknown
  | Left
  | Right
  | Straight
  deriving DecidableEq, Repr

inductive SteeringStatus
  | Unknown
  | Approaching
  | Turning
  deriving DecidableEq, Repr

inductive RouteState
  | Unknown
  | Unset
  | Set
  | Arrived
  | Changing
  deriving DecidableEq, Repr

structure TrajectoryPoint (R F : Type) where
  x : R
  y : R
  z : R
  longitudinalVelocityMps : F
  deriving DecidableEq, Repr

/-- `FullRoute`. A pose that is not set is absent. -/
structure FullRoute (R : Type) where
  startPose : Option (Vector3 R)
  goalPose : Option (Vector3 R)
  segments : List LaneletSegment
  deriving DecidableEq, Repr

structure VelocityFactor (R : Type) where
  reason : String
  pose : Vector3 R
  status : VelocityFactorStatus
  deriving DecidableEq, Repr

structure SteeringFactor (R : Type) where
  direction : SteeringDirection
  status : SteeringStatus
  reason : String
  pose : Vector3 R
  deriving DecidableEq, Repr

structure ScenarioState where
  currentScenario : String
  activeScenarios : List String
  deriving DecidableEq, Repr

structure PlanningFrameState (R F : Type) where
  trajectoryPoints : List (TrajectoryPoint R F)
  laneTrajectory : List (TrajectoryPoint R F)
  fullRoute : FullRoute R
  velocityFactors : List (VelocityFactor R)
  steeringFactors : List (SteeringFactor R)
  targetSpeedMps : F
  maxSpeedMps : F
  eta : EtaData F
  routingState : RouteState
  scenarioState : ScenarioState
  deriving DecidableEq, Repr

/-- `PlanningFrameState{}`. -/
def PlanningFrameState.initial {R F : Type} [Zero F] : PlanningFrameState R F where
  trajectoryPoints := []
  laneTrajectory := []
  fullRoute := ⟨none, none, []⟩
  velocityFactors := []
  steeringFactors := []
  targetSpeedMps := 0
  maxSpeedMps := 0
  eta := ⟨0, 0⟩
  routingState := .Unknown
  scenarioState := ⟨"", []⟩

structure PlanningFrame (R F : Type) where
  stampNs : Int64
  seq : UInt64
  trajectoryPoints : List (TrajectoryPoint R F)
  laneTrajectory : List (TrajectoryPoint R F)
  fullRoute : FullRoute R
  velocityFactors : List (VelocityFactor R)
  steeringFactors : List (SteeringFactor R)
  targetSpeedMps : F
  maxSpeedMps : F
  eta : EtaData F
  routingState : RouteState
  scenarioState : ScenarioState
  deriving DecidableEq, Repr

/-! ### Handlers -/

def toVelocityFactorStatus : VelocityFactorReport → VelocityFactorStatus
  | .Approaching => .Approaching
  | .Stopped => .Stopped
  | .Other => .Unknown

def toSteeringDirection : SteeringDirectionReport → SteeringDirection
  | .Left => .Left
  | .Right => .Right
  | .Straight => .Straight
  | .Other => .Unknown

def toSteeringStatus : SteeringStatusReport → SteeringStatus
  | .Approaching => .Approaching
  | .Turning => .Turning
  | .Other => .Unknown

def toRouteState : RouteStateReport → RouteState
  | .Unset => .Unset
  | .Set => .Set
  | .Arrived => .Arrived
  | .Changing => .Changing
  | .Other => .Unknown

section
variable {R F : Type}

/-- What a point of a trajectory is shown as, in both loops over points. -/
def trajectoryPoint (point : PathPoint R F) : TrajectoryPoint R F where
  x := point.position.x
  y := point.position.y
  z := point.position.z
  longitudinalVelocityMps := point.longitudinalVelocityMps

/-- One turn of the loop over the factors of velocity. -/
def velocityFactor (factor : VelocityFactorMessage R) : VelocityFactor R where
  reason := factor.behavior
  pose := factor.pose
  status := toVelocityFactorStatus factor.status

/-- One turn of the loop over the factors of steering, of which the first pose is shown. -/
def steeringFactor (factor : SteeringFactorMessage R) : SteeringFactor R where
  direction := toSteeringDirection factor.direction
  status := toSteeringStatus factor.status
  reason := factor.behavior
  pose := factor.pose.1

variable [Floats R F]

/-- The handler of a message. -/
def onMessage (s : PlanningFrameState R F) : Message R F → PlanningFrameState R F
  | .TrajectoryPoint points => { s with trajectoryPoints := points.map trajectoryPoint }
  | .FullRoute msg => { s with fullRoute := ⟨some msg.startPose, some msg.goalPose, msg.segments⟩ }
  | .TrajectoryLane points => { s with laneTrajectory := points.map trajectoryPoint }
  | .VelocityFactor factors => { s with velocityFactors := factors.map velocityFactor }
  | .SteeringFactor factors => { s with steeringFactors := factors.map steeringFactor }
  | .TargetVelocity data => { s with targetSpeedMps := data }
  | .VelocityLimit maxVelocity => { s with maxSpeedMps := maxVelocity }
  | .Eta remainingDistance remainingTime =>
    { s with eta := ⟨Floats.toFloat remainingDistance, Floats.toFloat remainingTime⟩ }
  | .RouteState state => { s with routingState := toRouteState state }
  | .ScenarioState currentScenario activatingScenarios =>
    { s with scenarioState := ⟨currentScenario, activatingScenarios⟩ }

omit [Floats R F] in
/-- `buildFrame`. -/
def buildFrame (stampNs : Int64) (seq : UInt64) (s : PlanningFrameState R F) : PlanningFrame R F where
  stampNs := stampNs
  seq := seq
  trajectoryPoints := s.trajectoryPoints
  laneTrajectory := s.laneTrajectory
  fullRoute := s.fullRoute
  velocityFactors := s.velocityFactors
  steeringFactors := s.steeringFactors
  targetSpeedMps := s.targetSpeedMps
  maxSpeedMps := s.maxSpeedMps
  eta := s.eta
  routingState := s.routingState
  scenarioState := s.scenarioState

/-! ### The bridge -/

/-- The members of `PlanningBridge` that its strand uses. -/
structure PlanningBridge (R F : Type) where
  state : PlanningFrameState R F
  frameSeq : UInt64
  deriving DecidableEq, Repr

/-- What the strand runs next. -/
inductive Input (R F : Type)
  | Message (msg : Message R F)
  | Tick (stampNs : Int64)
  deriving DecidableEq, Repr

/-- One step: a handler, or `onTick`, which publishes a frame. Neither fails. -/
def step (b : PlanningBridge R F) : Input R F → Except Empty (PlanningBridge R F × List (PlanningFrame R F))
  | .Message msg => .ok ({ b with state := onMessage b.state msg }, [])
  | .Tick stampNs => .ok ({ b with frameSeq := b.frameSeq + 1 }, [buildFrame stampNs b.frameSeq b.state])

variable (R F) in
def machine [Zero F] : Machine (PlanningBridge R F) (Input R F) (PlanningFrame R F) Empty where
  Start b := b = ⟨.initial, 0⟩
  step := step

/-! ### What a frame shows -/

variable (R F) in
/-- The state of the bridge is a board. -/
def board : Board (PlanningFrameState R F) (Message R F) Topic where
  write := onMessage
  topic := Message.topic
  overwrites := by
    intro m m' same s
    cases m <;> cases m' <;> first | rfl | cases same
  commutes := by
    intro m m' other s
    cases m <;> cases m' <;> first | rfl | exact absurd rfl other

/-- The message of a handler. -/
def heard : Input R F → Option (Message R F)
  | .Message msg => some msg
  | .Tick _ => none

/-- The frame of a tick. -/
def tickFrame : Input R F → UInt64 → PlanningFrameState R F → PlanningFrame R F
  | .Tick stampNs => buildFrame stampNs
  | .Message _ => buildFrame 0

variable (R F) in
def broadcast [Zero F] : Broadcast (machine R F) (board R F) where
  board := PlanningBridge.state
  seq := PlanningBridge.frameSeq
  heard := heard
  frame := tickFrame
  initial := .initial
  starts := by
    rintro s rfl
    exact ⟨rfl, rfl⟩
  hears := by
    intro s s' i os m stepped said
    cases i with
    | Message msg =>
      cases stepped
      cases said
      exact ⟨rfl, rfl, rfl⟩
    | Tick stampNs => cases said
  ticks := by
    intro s s' i os stepped said
    cases i with
    | Message msg => cases said
    | Tick stampNs =>
      cases stepped
      exact ⟨rfl, rfl, rfl⟩

variable [Zero F] {newer older : History (PlanningBridge R F) (Input R F) (PlanningFrame R F)}
  {m : Moment (PlanningBridge R F) (Input R F) (PlanningFrame R F)} {b : PlanningBridge R F}

/-- In every run a frame has the number of the frames before it, and shows what any
    messages would have left of which the latest ones of all topics are those that
    were handled: in whatever order the topics were delivered, and whatever was lost
    of them. -/
theorem planning_shows_latest (run : Runs (machine R F) (newer ++ m :: older) b) {stampNs : Int64}
    (tick : m.input = .Tick stampNs) {msgs : List (Message R F)}
    (same : ∀ t, (board R F).latest t msgs = (board R F).latest t ((broadcast R F).messages older)) :
    m.outputs = [buildFrame stampNs (.ofNat ((broadcast R F).sent older)) (msgs.foldl onMessage .initial)] := by
  have silent : (broadcast R F).heard m.input = none := by
    rw [tick]
    rfl
  have sent := frame_latest run silent same
  rw [tick] at sent
  exact sent

end

section
attribute [local instance] sameFloats

/-- A limit is overwritten, and the estimate comes between: the last frame shows what
    the other order of the last two messages leaves. -/
theorem planning_shows_latest_here : ∃ newer m older, ∃ b : PlanningBridge ℚ ℚ,
    Runs (machine ℚ ℚ) (newer ++ m :: older) b ∧
      m.outputs = [buildFrame 16667000 1 ([.Eta 900 60, .VelocityLimit 8].foldl onMessage .initial)] := by
  obtain ⟨newer, m, older, b, run, passes⟩ := exists_run_at (M := machine ℚ ℚ) (s := ⟨.initial, 0⟩)
    [.Message (.VelocityLimit 14), .Tick 0, .Message (.VelocityLimit 8), .Message (.Eta 900 60), .Tick 16667000] rfl 0
    (fun _ m older _ => decide (m.input = .Tick 16667000 ∧ (broadcast ℚ ℚ).sent older = 1 ∧
      (broadcast ℚ ℚ).messages older = [.VelocityLimit 14, .VelocityLimit 8, .Eta 900 60])) (by decide +kernel)
  obtain ⟨tick, sent, heard⟩ := of_decide_eq_true passes
  have same : ∀ t, (board ℚ ℚ).latest t [.Eta 900 60, .VelocityLimit 8] =
      (board ℚ ℚ).latest t ((broadcast ℚ ℚ).messages older) := by
    intro t
    rw [heard]
    cases t <;> rfl
  have frame := planning_shows_latest run tick same
  rw [sent] at frame
  exact ⟨newer, m, older, b, run, frame⟩

end
end AutowareAgent.Plannings
