import AutowareAgent.Lanes

/-!
`TripController`: the state machine that queries the two legs of a trip and then
drives them. Every operation runs on the strand at one reading of the clock and
returns the controller afterwards, with what it published, requested, reported
to its callbacks and announced as state changes appended to `out`. Log lines and
message stamps are left out.
-/
namespace AutowareAgent.Trips
open AutowareAgent.Numerals AutowareAgent.Lanes

inductive TripState
  | Idle
  | InitializingInMap
  | QueryPublishingInitialPose
  | QueryWaitingLocalisation
  | QueryPublishingGoal
  | QueryWaitingRoute
  | QueryReadingEta
  | RoutesReady
  | WaitingForPickupStart
  | PublishingInitialPose
  | WaitingLocalisation
  | Engaging
  | DrivingToPickup
  | WaitingForMove
  | Running
  | Completed
  | Cancelled
  | Failed
  deriving DecidableEq, Repr

/-- `LocalizationInitializationState::state`. -/
inductive LocState
  | Unknown
  | Uninitialized
  | Initializing
  | Initialized
  deriving DecidableEq, Repr

/-- `RouteState::state`. -/
inductive RouteState
  | Unknown
  | Unset
  | Set
  | Arrived
  | Changing
  deriving DecidableEq, Repr

/-- `LaneletRoute`: the preferred primitives of its segments. -/
structure LaneletRoute where
  segments : List Int64
  deriving DecidableEq, Repr

inductive QueryLeg
  | Pickup
  | Trip
  deriving DecidableEq, Repr

/-- The milliseconds of `TripTimings` that the controller reads. -/
structure TripTimings where
  routeTimeoutMs : Int := 30000
  locTimeoutMs : Int := 30000
  etaSettleMs : Int := 2000
  deriving DecidableEq, Repr

/-- The five numbers of a pose on a lane. -/
structure Pose (R : Type) where
  x : R
  y : R
  z : R
  qz : R
  qw : R
  deriving DecidableEq, Repr

structure TripStatus (R : Type) where
  state : TripState
  startLaneletId : String
  startPose : Pose R
  startGps : GPSCoordinate R
  goalGps : GPSCoordinate R
  goalLaneletId : String
  goalPose : Pose R
  goalDistanceM : R
  currentGps : GPSCoordinate R
  lastStateChange : Int
  deriving DecidableEq, Repr

structure LegEta (R : Type) where
  success : Bool
  distanceM : R
  etaSeconds : R
  startLaneId : String
  goalLaneId : String
  errorMessage : String
  deriving DecidableEq, Repr

structure EtaQueryResult (R : Type) where
  success : Bool
  pickupLeg : LegEta R
  tripLeg : LegEta R
  errorMessage : String
  fare : R
  deriving DecidableEq, Repr

structure HeldRoute (R : Type) where
  route : LaneletRoute
  etaSeconds : R
  distanceM : R
  goalGps : GPSCoordinate R
  goalLaneId : LaneId
  deriving DecidableEq, Repr

/-- What a handler does that others see. A goal carries the state in which it is
    published; `κ` are the callbacks that are given to `queryEta`. -/
inductive Output (R κ : Type)
  | InitialPose (pose : Pose R)
  | Goal (state : TripState) (pose : Pose R)
  | ModeRequest
  | EngageRequest (engage : Bool)
  | StateChange (prev next : TripState)
  | QueryResult (cb : κ) (result : EtaQueryResult R)
  | PickupArrived
  | DropoffArrived
  | Returned (ok : Bool)
  deriving DecidableEq, Repr

/-- What a handler reads of its surroundings: the steady clock in nanoseconds,
    the transform from `map` to `base_link`, and which services are ready. -/
structure Env (R : Type) where
  now : Int
  tf : Option (LocalCoordinate R)
  modeServiceReady : Bool
  engageServiceReady : Bool
  deriving DecidableEq, Repr

structure TripController (R κ : Type) where
  engagingForPickup : Bool
  currentLocState : Option LocState
  currentRouteState : Option RouteState
  currentModeState : Option Bool
  lastRoute : Option LaneletRoute
  lastPublishTime : Int
  status : TripStatus R
  stateEnteredAt : Int
  routeReceived : Bool
  initPose : Pose R
  querying : Bool
  currentLeg : QueryLeg
  queryStartGps : GPSCoordinate R
  queryGoalGps : GPSCoordinate R
  queryCb : Option κ
  queryResult : EtaQueryResult R
  etaReceived : Bool
  etaDistanceM : R
  etaSeconds : R
  pickupRoute : Option (HeldRoute R)
  tripRoute : Option (HeldRoute R)
  laneletMap : LaneletMap R
  out : List (Output R κ)
  deriving DecidableEq, Repr

/-- `elapsed_ms`, whole milliseconds. -/
def elapsedMs (now since : Int) : Int := (now - since).tdiv 1000000

/-- The pose that a lane gives to a leg. -/
def lanePose {R : Type} (info : LaneInfo R) : Pose R :=
  ⟨info.localPoint.x, info.localPoint.y, info.localPoint.z, info.orientation.z, info.orientation.w⟩

/-- The pose of the fixed start. -/
def startPositionPose {R : Type} (pos : FixedStartPosition R) : Pose R :=
  ⟨pos.localPoint.x, pos.localPoint.y, pos.localPoint.z, pos.orientation.z, pos.orientation.w⟩

/-- `std::stoll` on a stored lanelet identifier. -/
def stollId (s : String) : Except Fault LaneId :=
  match stoll s with
  | .ok id => .ok id
  | .error reason => .error (.Numeral reason)

/-- The name of a leg in error messages. -/
def legName : QueryLeg → String
  | .Pickup => "pickup"
  | .Trip => "trip"

section
variable {R κ : Type}

/-! ### Publishing and state changes -/

def TripController.emit (o : Output R κ) (c : TripController R κ) : TripController R κ :=
  { c with out := c.out ++ [o] }

/-- The controller once a handler has returned: its outputs are taken away. -/
def TripController.settled (c : TripController R κ) : TripController R κ := { c with out := [] }

/-- `doPublishInitialPose`. -/
def TripController.doPublishInitialPose (pose : Pose R) (c : TripController R κ) : TripController R κ :=
  c.emit (.InitialPose pose)

/-- `doPublishGoal`. -/
def TripController.doPublishGoal (pose : Pose R) (c : TripController R κ) : TripController R κ :=
  c.emit (.Goal c.status.state pose)

/-- `transitionTo`. -/
def TripController.transitionTo (now : Int) (next : TripState) (c : TripController R κ) : TripController R κ :=
  if c.status.state = next then c
  else
    { c with
      status := { c.status with state := next, lastStateChange := now }
      stateEnteredAt := now
      lastPublishTime := 0
      out := c.out ++ [.StateChange c.status.state next] }

section
variable (c : TripController R κ) (now : Int) (next : TripState)

/-- A transition to the present state changes nothing, any other is announced and timed. -/
theorem transitionTo_eq : c.transitionTo now next =
    { c with
      status := { c.status with
        state := next
        lastStateChange := if c.status.state = next then c.status.lastStateChange else now }
      stateEnteredAt := if c.status.state = next then c.stateEnteredAt else now
      lastPublishTime := if c.status.state = next then c.lastPublishTime else 0
      out := c.out ++ if c.status.state = next then [] else [.StateChange c.status.state next] } := by
  unfold TripController.transitionTo
  split
  · rename_i same
    subst same
    simp
  · rfl

@[simp] theorem transitionTo_state : (c.transitionTo now next).status.state = next := by
  rw [transitionTo_eq]
@[simp] theorem transitionTo_out : (c.transitionTo now next).out =
    c.out ++ if c.status.state = next then [] else [.StateChange c.status.state next] := by
  rw [transitionTo_eq]
@[simp] theorem transitionTo_startLaneletId : (c.transitionTo now next).status.startLaneletId = c.status.startLaneletId := by
  rw [transitionTo_eq]
@[simp] theorem transitionTo_startPose : (c.transitionTo now next).status.startPose = c.status.startPose := by
  rw [transitionTo_eq]
@[simp] theorem transitionTo_startGps : (c.transitionTo now next).status.startGps = c.status.startGps := by
  rw [transitionTo_eq]
@[simp] theorem transitionTo_goalGps : (c.transitionTo now next).status.goalGps = c.status.goalGps := by
  rw [transitionTo_eq]
@[simp] theorem transitionTo_goalLaneletId : (c.transitionTo now next).status.goalLaneletId = c.status.goalLaneletId := by
  rw [transitionTo_eq]
@[simp] theorem transitionTo_goalPose : (c.transitionTo now next).status.goalPose = c.status.goalPose := by
  rw [transitionTo_eq]
@[simp] theorem transitionTo_goalDistanceM : (c.transitionTo now next).status.goalDistanceM = c.status.goalDistanceM := by
  rw [transitionTo_eq]
@[simp] theorem transitionTo_currentGps : (c.transitionTo now next).status.currentGps = c.status.currentGps := by
  rw [transitionTo_eq]
@[simp] theorem transitionTo_engagingForPickup : (c.transitionTo now next).engagingForPickup = c.engagingForPickup := by
  rw [transitionTo_eq]
@[simp] theorem transitionTo_currentLocState : (c.transitionTo now next).currentLocState = c.currentLocState := by
  rw [transitionTo_eq]
@[simp] theorem transitionTo_currentRouteState : (c.transitionTo now next).currentRouteState = c.currentRouteState := by
  rw [transitionTo_eq]
@[simp] theorem transitionTo_currentModeState : (c.transitionTo now next).currentModeState = c.currentModeState := by
  rw [transitionTo_eq]
@[simp] theorem transitionTo_lastRoute : (c.transitionTo now next).lastRoute = c.lastRoute := by
  rw [transitionTo_eq]
@[simp] theorem transitionTo_routeReceived : (c.transitionTo now next).routeReceived = c.routeReceived := by
  rw [transitionTo_eq]
@[simp] theorem transitionTo_initPose : (c.transitionTo now next).initPose = c.initPose := by
  rw [transitionTo_eq]
@[simp] theorem transitionTo_querying : (c.transitionTo now next).querying = c.querying := by
  rw [transitionTo_eq]
@[simp] theorem transitionTo_currentLeg : (c.transitionTo now next).currentLeg = c.currentLeg := by
  rw [transitionTo_eq]
@[simp] theorem transitionTo_queryStartGps : (c.transitionTo now next).queryStartGps = c.queryStartGps := by
  rw [transitionTo_eq]
@[simp] theorem transitionTo_queryGoalGps : (c.transitionTo now next).queryGoalGps = c.queryGoalGps := by
  rw [transitionTo_eq]
@[simp] theorem transitionTo_queryCb : (c.transitionTo now next).queryCb = c.queryCb := by
  rw [transitionTo_eq]
@[simp] theorem transitionTo_queryResult : (c.transitionTo now next).queryResult = c.queryResult := by
  rw [transitionTo_eq]
@[simp] theorem transitionTo_etaReceived : (c.transitionTo now next).etaReceived = c.etaReceived := by
  rw [transitionTo_eq]
@[simp] theorem transitionTo_etaDistanceM : (c.transitionTo now next).etaDistanceM = c.etaDistanceM := by
  rw [transitionTo_eq]
@[simp] theorem transitionTo_etaSeconds : (c.transitionTo now next).etaSeconds = c.etaSeconds := by
  rw [transitionTo_eq]
@[simp] theorem transitionTo_pickupRoute : (c.transitionTo now next).pickupRoute = c.pickupRoute := by
  rw [transitionTo_eq]
@[simp] theorem transitionTo_tripRoute : (c.transitionTo now next).tripRoute = c.tripRoute := by
  rw [transitionTo_eq]
@[simp] theorem transitionTo_laneletMap : (c.transitionTo now next).laneletMap = c.laneletMap := by
  rw [transitionTo_eq]
end

/-- Publishing the initial pose again once a second has passed. -/
def TripController.republishInitialPose (now : Int) (pose : Pose R) (c : TripController R κ) :
    TripController R κ :=
  if 1000 ≤ elapsedMs now c.lastPublishTime then { c.doPublishInitialPose pose with lastPublishTime := now } else c

/-- `current_loc_state_` says `INITIALIZED`. -/
def TripController.localised (c : TripController R κ) : Bool := c.currentLocState = some .Initialized

end

section
variable {R κ : Type} [Zero R] [Add R] [Sub R] [Mul R] [Div R] [NatCast R] [LT R] [DecidableLT R] [CMath R]

/-- `TripStatus{}`. -/
def TripStatus.initial : TripStatus R :=
  ⟨.Idle, "", ⟨0, 0, 0, 0, 0⟩, ⟨0, 0⟩, ⟨0, 0⟩, "", ⟨0, 0, 0, 0, 0⟩, 0, ⟨0, 0⟩, 0⟩
/-- `LegEta{}`. -/
def LegEta.initial : LegEta R := ⟨false, 0, 0, "", "", ""⟩
/-- `EtaQueryResult{}`. -/
def EtaQueryResult.initial : EtaQueryResult R := ⟨false, .initial, .initial, "", 0⟩

/-- A controller as its constructor leaves it, over the map. -/
def TripController.constructed (m : LaneletMap R) : TripController R κ where
  engagingForPickup := true
  currentLocState := none
  currentRouteState := none
  currentModeState := none
  lastRoute := none
  lastPublishTime := 0
  status := .initial
  stateEnteredAt := 0
  routeReceived := false
  initPose := ⟨0, 0, 0, 0, ((1 : Nat) : R)⟩
  querying := false
  currentLeg := .Pickup
  queryStartGps := ⟨0, 0⟩
  queryGoalGps := ⟨0, 0⟩
  queryCb := none
  queryResult := .initial
  etaReceived := false
  etaDistanceM := 0
  etaSeconds := 0
  pickupRoute := none
  tripRoute := none
  laneletMap := m
  out := []

/-! ### Starting up -/

/-- `initializeInMap`. -/
def TripController.initializeInMap (now : Int) (c : TripController R κ) : TripController R κ :=
  match c.laneletMap.defaultStart with
  | none => c
  | some fixedStart =>
    let c := { c with initPose := startPositionPose fixedStart }
    (c.doPublishInitialPose c.initPose).transitionTo now .InitializingInMap

/-- `getCurrentVehiclePose`. -/
def getCurrentVehiclePose (D : MapData R) (tf : Option (LocalCoordinate R)) : Option (GPSCoordinate R) :=
  match tf with
  | none => none
  | some point =>
    let gps := localToGps D point
    if gps.latitude < ((35 : Nat) : R) ∨ ((36 : Nat) : R) < gps.latitude ∨ gps.longitude < ((139 : Nat) : R) ∨
        ((140 : Nat) : R) < gps.longitude then none
    else some gps

/-! ### The query -/

/-- Calling the query's callback, if there is one, and letting go of it. -/
def TripController.callQueryCb (c : TripController R κ) : TripController R κ :=
  match c.queryCb with
  | some cb => { c.emit (.QueryResult cb c.queryResult) with queryCb := none }
  | none => c

/-- `failQuery`. -/
def TripController.failQuery (now : Int) (reason : String) (c : TripController R κ) : TripController R κ :=
  let c :=
    if c.queryCb.isSome then
      { c with queryResult := { c.queryResult with success := false, errorMessage := reason } }.callQueryCb
    else c
  let c := { c with
    querying := false
    pickupRoute := none
    tripRoute := none
    status := .initial
    routeReceived := false }
  c.transitionTo now .Idle

section
variable (c : TripController R κ) (now : Int) (reason : String)

omit [Zero R] [Add R] [Sub R] [Mul R] [Div R] [NatCast R] [LT R] [DecidableLT R] [CMath R] in
theorem callQueryCb_eq : c.callQueryCb =
    { c with
      queryCb := none
      out := c.out ++ (c.queryCb.map fun cb => .QueryResult cb c.queryResult).toList } := by
  unfold TripController.callQueryCb
  cases calls : c.queryCb with
  | none => cases c; simp_all
  | some cb => simp [TripController.emit]

omit [Add R] [Sub R] [Mul R] [Div R] [NatCast R] [LT R] [DecidableLT R] [CMath R] in
/-- A failed query leaves an idle controller with an empty bank and no callback. -/
theorem failQuery_eq : c.failQuery now reason =
    { c with
      queryResult := if c.queryCb.isSome then { c.queryResult with success := false, errorMessage := reason }
        else c.queryResult
      queryCb := none
      out := c.out ++ (c.queryCb.map fun cb =>
        .QueryResult cb { c.queryResult with success := false, errorMessage := reason }).toList
      querying := false
      pickupRoute := none
      tripRoute := none
      status := .initial
      routeReceived := false } := by
  unfold TripController.failQuery
  cases calls : c.queryCb with
  | none => simp [calls, TripController.transitionTo, TripStatus.initial]
  | some cb => simp [callQueryCb_eq, TripController.transitionTo, TripStatus.initial]

end

/-- The lookup of a leg's start lane: by position on the pickup leg, by the goal
    of the pickup leg on the trip leg. -/
def TripController.findStartLane (D : MapData R) (fromGps : GPSCoordinate R) (c : TripController R κ) :
    Except Fault (Option (LaneInfo R) × LaneletMap R) :=
  match c.currentLeg with
  | .Pickup => findNearestLane D fromGps c.laneletMap
  | .Trip => do getLaneById D (← stollId c.status.goalLaneletId) c.laneletMap

/-- The status of a leg between two lanes. -/
def legStatus (D : MapData R) (fromLane toLane : LaneInfo R) (toGps : GPSCoordinate R) (status : TripStatus R) :
    TripStatus R :=
  let raw := gpsToLocal D toGps
  let dx := toLane.localPoint.x - raw.x
  let dy := toLane.localPoint.y - raw.y
  { status with
    startPose := lanePose fromLane
    startLaneletId := toString64 fromLane.laneId
    goalPose := lanePose toLane
    goalLaneletId := toString64 toLane.laneId
    goalGps := toGps
    goalDistanceM := CMath.sqrt (dx * dx + dy * dy) }

/-- `startQueryLeg`. -/
def TripController.startQueryLeg (D : MapData R) (now : Int) (fromGps toGps : GPSCoordinate R)
    (c : TripController R κ) : Except Fault (TripController R κ) := do
  let (fromLane, m) ← c.findStartLane D fromGps
  let c := { c with laneletMap := m }
  match fromLane with
  | none =>
    return c.failQuery now
      ("cannot resolve lane for " ++ if c.currentLeg = .Pickup then "pickup origin" else "trip start")
  | some fromLane =>
    let (toLane, m) ← findNearestConnectedLane D toGps fromLane.laneId true c.laneletMap
    let c := { c with laneletMap := m }
    match toLane with
    | none =>
      let (toLane, m) ← findNearestLane D toGps c.laneletMap
      let c := { c with laneletMap := m }
      return c.failQuery now
        ("destination lane " ++ toString64 ((toLane.map LaneInfo.laneId).getD (-1)) ++
          " not reachable from start lane " ++ toString64 fromLane.laneId)
    | some toLane =>
      let c := { c with status := legStatus D fromLane toLane toGps c.status }
      return c.transitionTo now .QueryPublishingInitialPose

/-- What a finished leg adds to the result. -/
def TripController.legEta (c : TripController R κ) : LegEta R :=
  { success := true
    distanceM := c.etaDistanceM
    etaSeconds := c.etaSeconds
    startLaneId := c.status.startLaneletId
    goalLaneId := c.status.goalLaneletId
    errorMessage := "" }

/-- The pickup leg goes into the bank and the trip leg begins. -/
def TripController.bankPickupLeg (goalLaneId : LaneId) (c : TripController R κ) : TripController R κ :=
  { c with
    queryResult := { c.queryResult with pickupLeg := c.legEta }
    pickupRoute := some {
      route := c.lastRoute.getD ⟨[]⟩
      etaSeconds := c.etaSeconds
      distanceM := c.etaDistanceM
      goalGps := c.queryStartGps
      goalLaneId := goalLaneId }
    currentLeg := .Trip
    currentRouteState := none
    routeReceived := false }

/-- The trip leg goes into the bank and the query has succeeded. -/
def TripController.bankTripLeg (c : TripController R κ) : TripController R κ :=
  { c with
    queryResult := { c.queryResult with tripLeg := c.legEta, success := true }
    tripRoute := some {
      route := c.lastRoute.getD ⟨[]⟩
      etaSeconds := c.etaSeconds
      distanceM := c.etaDistanceM
      goalGps := c.queryGoalGps
      goalLaneId := 0 }
    querying := false }

/-- `finishQueryLeg`. -/
def TripController.finishQueryLeg (D : MapData R) (now : Int) (c : TripController R κ) :
    Except Fault (TripController R κ) :=
  match c.currentLeg with
  | .Pickup => do
    let goalLaneId ← stollId c.status.goalLaneletId
    (c.bankPickupLeg goalLaneId).startQueryLeg D now c.queryStartGps c.queryGoalGps
  | .Trip =>
    let c := c.bankTripLeg.callQueryCb
    .ok ({ c with status := .initial }.transitionTo now .RoutesReady)

/-- The refusal that `queryEta` reports to its callback. -/
def TripController.refuseQuery (reason : String) (cb : Option κ) (c : TripController R κ) : TripController R κ :=
  match cb with
  | some cb => c.emit (.QueryResult cb { EtaQueryResult.initial with errorMessage := reason })
  | none => c

/-- The fields that an accepted query sets. -/
def TripController.openQuery (startGps goalGps : GPSCoordinate R) (cb : Option κ) (c : TripController R κ) :
    TripController R κ :=
  { c with
    querying := true
    currentLeg := .Pickup
    queryStartGps := startGps
    queryGoalGps := goalGps
    queryCb := cb
    queryResult := .initial
    pickupRoute := none
    tripRoute := none }

/-- `queryEta`. -/
def TripController.queryEta (D : MapData R) (e : Env R) (startGps goalGps : GPSCoordinate R) (cb : Option κ)
    (c : TripController R κ) : Except Fault (TripController R κ × Bool) :=
  if c.status.state ≠ .Idle then
    .ok (c.refuseQuery ("not idle (state=" ++ toString c.status.state.ctorIdx ++ ")") cb, false)
  else
    match getCurrentVehiclePose D e.tf with
    | none => .ok (c.refuseQuery "vehicle not localized — call after IDLE (post map init)" cb, false)
    | some vehiclePose => do
      let c ← (c.openQuery startGps goalGps cb).startQueryLeg D e.now vehiclePose startGps
      return (c, true)

/-! ### The drive -/

/-- What `startTrip` does once it has resolved the pickup lane. -/
def TripController.acceptTrip (now : Int) (startLane : LaneInfo R) (pickupRoute : HeldRoute R)
    (c : TripController R κ) : TripController R κ :=
  { c with
    status := { c.status with
      startLaneletId := toString64 startLane.laneId
      startPose := lanePose startLane
      startGps := pickupRoute.goalGps } }.transitionTo now .WaitingForPickupStart

/-- `startTrip`. -/
def TripController.startTrip (D : MapData R) (now : Int) (c : TripController R κ) :
    Except Fault (TripController R κ × Bool) :=
  let c := { c with engagingForPickup := true, currentRouteState := none }
  match c.pickupRoute, c.tripRoute with
  | some pickupRoute, some _ =>
    if c.status.state ≠ .RoutesReady ∧ c.status.state ≠ .Idle then .ok (c, false)
    else do
      let (startLane, m) ← getLaneById D pickupRoute.goalLaneId c.laneletMap
      let c := { c with laneletMap := m }
      match startLane with
      | none => return (c.transitionTo now .Failed, false)
      | some startLane =>
        return (c.acceptTrip now startLane pickupRoute, true)
  | _, _ => .ok (c, false)

/-- `goToPickup`. -/
def TripController.goToPickup (now : Int) (c : TripController R κ) : TripController R κ × Bool :=
  if c.status.state ≠ .WaitingForPickupStart then (c, false)
  else
    ({ c with currentRouteState := none, routeReceived := false }.transitionTo now .PublishingInitialPose, true)

/-- What `move` does once it has resolved the goal lane. -/
def TripController.startTripLeg (now : Int) (goalLane : LaneInfo R) (tripRoute : HeldRoute R)
    (c : TripController R κ) : TripController R κ :=
  let c := { c with
    status := { c.status with
      goalLaneletId := toString64 goalLane.laneId
      goalPose := lanePose goalLane
      goalGps := tripRoute.goalGps
      goalDistanceM := tripRoute.distanceM }
    currentRouteState := none }
  let c := c.doPublishGoal c.status.goalPose
  { c with engagingForPickup := false }.transitionTo now .Engaging

/-- `move`. -/
def TripController.move (D : MapData R) (now : Int) (c : TripController R κ) :
    Except Fault (TripController R κ × Bool) :=
  if c.status.state ≠ .WaitingForMove then .ok (c, false)
  else
    match c.tripRoute with
    | none => .ok (c.transitionTo now .Failed, false)
    | some tripRoute => do
      let currentLaneId ← stollId c.status.startLaneletId
      let (goalLane, m) ← findNearestConnectedLane D tripRoute.goalGps currentLaneId true c.laneletMap
      let c := { c with laneletMap := m }
      match goalLane with
      | none => return (c.transitionTo now .Failed, false)
      | some goalLane =>
        return (c.startTripLeg now goalLane tripRoute, true)

/-- `handleMoveCommand`. -/
def TripController.handleMoveCommand (D : MapData R) (now : Int) (c : TripController R κ) :
    Except Fault (TripController R κ × Bool) :=
  if c.status.state = .WaitingForPickupStart then .ok (c.goToPickup now)
  else if c.status.state = .WaitingForMove then c.move D now
  else .ok (c, false)

/-- `cancel`. -/
def TripController.cancel (now : Int) (c : TripController R κ) : TripController R κ :=
  let c := { c with
    querying := false
    queryCb := none
    pickupRoute := none
    tripRoute := none
    status := .initial
    routeReceived := false
    engagingForPickup := false
    currentRouteState := none }
  let c :=
    match c.laneletMap.defaultStart with
    | some fixedStart => c.doPublishInitialPose (startPositionPose fixedStart)
    | none => c
  c.transitionTo now .Idle

/-- `doEngage`, up to the mode-change request. -/
def TripController.doEngage (e : Env R) (c : TripController R κ) : TripController R κ :=
  if !e.modeServiceReady || !e.engageServiceReady then c
  else if c.currentModeState = some false then c
  else c.emit .ModeRequest

/-- What the response to an engage request posts to the strand. -/
def TripController.onEngaged (now : Int) (c : TripController R κ) : TripController R κ :=
  if c.status.state = .Engaging then
    if c.engagingForPickup then c.transitionTo now .DrivingToPickup else c.transitionTo now .Running
  else c

/-! ### Ticks -/

def TripController.tickInitializingInMap (now : Int) (c : TripController R κ) : TripController R κ :=
  if !c.localised then c.republishInitialPose now c.initPose else c.transitionTo now .Idle

def TripController.tickQueryPublishingInitialPose (now : Int) (c : TripController R κ) : TripController R κ :=
  (c.doPublishInitialPose c.status.startPose).transitionTo now .QueryWaitingLocalisation

def TripController.tickQueryWaitingLocalisation (T : TripTimings) (now : Int) (c : TripController R κ) :
    TripController R κ :=
  if !c.localised then
    let c := c.republishInitialPose now c.status.startPose
    if T.locTimeoutMs ≤ elapsedMs now c.stateEnteredAt then
      c.failQuery now ("timeout waiting for localisation on " ++ legName c.currentLeg ++ " leg")
    else c
  else c.transitionTo now .QueryPublishingGoal

def TripController.tickQueryPublishingGoal (now : Int) (c : TripController R κ) : TripController R κ :=
  let c := c.doPublishGoal c.status.goalPose
  { c with routeReceived := false, currentRouteState := none }.transitionTo now .QueryWaitingRoute

def TripController.tickQueryWaitingRoute (T : TripTimings) (now : Int) (c : TripController R κ) :
    TripController R κ :=
  if c.currentRouteState ≠ some .Set then
    let c :=
      if 2000 ≤ elapsedMs now c.lastPublishTime then
        { c.doPublishGoal c.status.goalPose with lastPublishTime := now }
      else c
    if T.routeTimeoutMs ≤ elapsedMs now c.stateEnteredAt then
      c.failQuery now ("timeout waiting for route on " ++ legName c.currentLeg ++ " leg (lanes " ++
        c.status.startLaneletId ++ " → " ++ c.status.goalLaneletId ++ " may not be connected)")
    else c
  else { c with etaReceived := false }.transitionTo now .QueryReadingEta

def TripController.tickQueryReadingEta (D : MapData R) (T : TripTimings) (now : Int) (c : TripController R κ) :
    Except Fault (TripController R κ) :=
  if c.etaReceived then c.finishQueryLeg D now
  else if T.etaSettleMs ≤ elapsedMs now c.stateEnteredAt then
    { c with etaDistanceM := 0, etaSeconds := 0 }.finishQueryLeg D now
  else .ok c

def TripController.tickPublishingInitialPose (now : Int) (c : TripController R κ) : TripController R κ :=
  (c.doPublishInitialPose c.initPose).transitionTo now .WaitingLocalisation

def TripController.tickWaitingLocalisation (now : Int) (c : TripController R κ) : TripController R κ :=
  if !c.localised then c.republishInitialPose now c.initPose
  else (c.doPublishGoal c.status.startPose).transitionTo now .Engaging

def TripController.tickEngaging (e : Env R) (c : TripController R κ) : TripController R κ :=
  if 2000 ≤ elapsedMs e.now c.lastPublishTime then { c.doEngage e with lastPublishTime := e.now } else c

/-- The arrival that ends a driving state. -/
def TripController.tickDriving (now : Int) (arrived : Output R κ) (next : TripState) (c : TripController R κ) :
    TripController R κ :=
  if c.currentRouteState = some .Arrived then
    { c.emit arrived with currentRouteState := none }.transitionTo now next
  else c

def TripController.tickDrivingToPickup (now : Int) (c : TripController R κ) : TripController R κ :=
  c.tickDriving now .PickupArrived .WaitingForMove

def TripController.tickRunning (now : Int) (c : TripController R κ) : TripController R κ :=
  c.tickDriving now .DropoffArrived .Completed

/-- `tick`, one function for each case of its switch. -/
def TripController.tick (D : MapData R) (T : TripTimings) (e : Env R) (c : TripController R κ) :
    Except Fault (TripController R κ) :=
  match c.status.state with
  | .Idle | .RoutesReady | .WaitingForPickupStart | .WaitingForMove | .Completed | .Cancelled | .Failed => .ok c
  | .InitializingInMap => .ok (c.tickInitializingInMap e.now)
  | .QueryPublishingInitialPose => .ok (c.tickQueryPublishingInitialPose e.now)
  | .QueryWaitingLocalisation => .ok (c.tickQueryWaitingLocalisation T e.now)
  | .QueryPublishingGoal => .ok (c.tickQueryPublishingGoal e.now)
  | .QueryWaitingRoute => .ok (c.tickQueryWaitingRoute T e.now)
  | .QueryReadingEta => c.tickQueryReadingEta D T e.now
  | .PublishingInitialPose => .ok (c.tickPublishingInitialPose e.now)
  | .WaitingLocalisation => .ok (c.tickWaitingLocalisation e.now)
  | .Engaging => .ok (c.tickEngaging e)
  | .DrivingToPickup => .ok (c.tickDrivingToPickup e.now)
  | .Running => .ok (c.tickRunning e.now)

/-! ### Messages -/

/-- `onRouteReceived`. -/
def TripController.onRouteReceived (route : LaneletRoute) (c : TripController R κ) : TripController R κ :=
  { c with lastRoute := some route, routeReceived := true }

/-- `injectEta`. -/
def TripController.injectEta (distanceM timeSeconds : R) (c : TripController R κ) : TripController R κ :=
  if c.status.state ≠ .QueryReadingEta then c
  else { c with etaDistanceM := distanceM, etaSeconds := timeSeconds, etaReceived := true }

/-- `setCurrentGps`. -/
def TripController.setCurrentGps (gps : GPSCoordinate R) (c : TripController R κ) : TripController R κ :=
  { c with status := { c.status with currentGps := gps } }

end
end AutowareAgent.Trips
