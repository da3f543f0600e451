import AutowareAgent.Boards
import AutowareAgent.Clusters
import AutowareAgent.Trips

/-!
`TripBridge`: the messages about the state of the system, the state that their
handlers keep, and the frame that is built of it and of the trip's status 60 times
a second. The system counts as alive for a second after a heartbeat.
-/
namespace AutowareAgent.TripFrames
open AutowareAgent.Machines AutowareAgent.Boards
open AutowareAgent.Trips (TripStatus)
open AutowareAgent.Clusters (MrmState MrmBehavior MrmStateReport MrmBehaviorReport mrmDescription)

/-! ### Messages

An enumeration of a message is a number; `Other` is any value without a name. -/

/-- `LocalizationInitializationState::state`. -/
inductive LocalizationReport
  | Uninitialized
  | Initializing
  | Initialized
  | Other
  deriving DecidableEq, Repr

/-- `OperationModeState::mode`. -/
inductive OperationModeReport
  | Stop
  | Autonomous
  | Local
  | Remote
  | Other
  deriving DecidableEq, Repr

/-- `DiagnosticStatus` of a node of the graph. -/
structure DiagNode where
  hardwareId : String
  level : UInt8
  message : String
  deriving DecidableEq, Repr

/-- What the bridge is subscribed to, with what the handlers read of it; of a
    heartbeat they read the clock, in nanoseconds. -/
inductive Message
  | LocalizationState (state : LocalizationReport)
  | OperationMode (mode : OperationModeReport)
  | MrmState (state : MrmStateReport) (behavior : MrmBehaviorReport)
  | Heartbeat (now : Int)
  | DiagState (diags : List DiagNode)
  deriving DecidableEq, Repr

/-- The topics of the messages. -/
inductive Topic
  | LocalizationState
  | OperationMode
  | MrmState
  | Heartbeat
  | DiagState
  deriving DecidableEq, Repr

def Message.topic : Message → Topic
  | .LocalizationState _ => .LocalizationState
  | .OperationMode _ => .OperationMode
  | .MrmState _ _ => .MrmState
  | .Heartbeat _ => .Heartbeat
  | .DiagState _ => .DiagState

/-! ### Frames -/

inductive LocalizationState
  | Unknown
  | Uninitialized
  | Initializing
  | Initialized
  deriving DecidableEq, Repr

inductive OperationMode
  | Unknown
  | Stop
  | Autonomous
  | Local
  | Remote
  deriving DecidableEq, Repr

inductive DiagLevel
  | Ok
  | Warn
  | Error
  | Stale
  deriving DecidableEq, Repr

structure ComponentHealth where
  name : String
  level : DiagLevel
  message : String
  deriving DecidableEq, Repr

/-- `vehicle_frame::TripState`. -/
inductive TripState
  | Idle
  | PublishingInitialPose
  | WaitingLocalisation
  | PublishingGoal
  | WaitingRoute
  | Engaging
  | Running
  | Completed
  | Failed
  deriving DecidableEq, Repr

structure TripFrameState (R : Type) where
  localizationState : LocalizationState
  operationMode : OperationMode
  mrmState : MrmState
  systemAlive : Bool
  components : List ComponentHealth
  tripState : TripState
  startLaneletId : String
  startX : R
  startY : R
  startZ : R
  goalLaneletId : String
  goalX : R
  goalY : R
  goalZ : R
  goalDistanceM : R
  deriving DecidableEq, Repr

/-- `TripFrameState{}`. -/
def TripFrameState.initial {R : Type} [Zero R] : TripFrameState R where
  localizationState := .Unknown
  operationMode := .Unknown
  mrmState := ⟨false, .None, ""⟩
  systemAlive := false
  components := []
  tripState := .Idle
  startLaneletId := ""
  startX := 0
  startY := 0
  startZ := 0
  goalLaneletId := ""
  goalX := 0
  goalY := 0
  goalZ := 0
  goalDistanceM := 0

/-- `TripFrame`, without the coordinates of the goal, which are never set. -/
structure TripFrame (R : Type) where
  stampNs : Int64
  seq : UInt64
  localizationState : LocalizationState
  operationMode : OperationMode
  mrmState : MrmState
  systemAlive : Bool
  componentHealth : List ComponentHealth
  tripState : TripState
  startLaneletId : String
  startX : R
  startY : R
  startZ : R
  goalLaneletId : String
  goalX : R
  goalY : R
  goalZ : R
  goalDistanceM : R
  deriving DecidableEq, Repr

/-! ### Handlers -/

def toLocalizationState : LocalizationReport → LocalizationState
  | .Uninitialized => .Uninitialized
  | .Initializing => .Initializing
  | .Initialized => .Initialized
  | .Other => .Unknown

def toOperationMode : OperationModeReport → OperationMode
  | .Stop => .Stop
  | .Autonomous => .Autonomous
  | .Local => .Local
  | .Remote => .Remote
  | .Other => .Unknown

def toDiagLevel (v : UInt8) : DiagLevel :=
  if v = 0 then .Ok else if v = 1 then .Warn else if v = 2 then .Error else .Stale

def toMrmBehavior : MrmBehaviorReport → MrmBehavior
  | .EmergencyStop => .EmergencyStop
  | .PullOver => .PullOver
  | .Other => .None

/-- `toTripState`. The phases of a drive to the pickup are among the others. -/
def toTripState : Trips.TripState → TripState
  | .Idle => .Idle
  | .PublishingInitialPose => .PublishingInitialPose
  | .WaitingLocalisation => .WaitingLocalisation
  | .QueryPublishingGoal => .PublishingGoal
  | .QueryWaitingRoute => .WaitingRoute
  | .Engaging => .Engaging
  | .Running => .Running
  | .Completed => .Completed
  | .Failed => .Failed
  | _ => .Idle

/-- One turn of the loop over the diagnostics: a node without a name is left out. -/
def pushComponent (components : List ComponentHealth) (diag : DiagNode) : List ComponentHealth :=
  if diag.hardwareId.isEmpty then components
  else components ++ [⟨diag.hardwareId, toDiagLevel diag.level, diag.message⟩]

/-- The members of `TripBridge` that its strand uses. -/
structure TripBridge (R : Type) where
  state : TripFrameState R
  frameSeq : UInt64
  lastHeartbeatTime : Int
  deriving DecidableEq, Repr

section
variable {R : Type}

/-- The handler of a message. -/
def onMessage (b : TripBridge R) : Message → TripBridge R
  | .LocalizationState state => { b with state := { b.state with localizationState := toLocalizationState state } }
  | .OperationMode mode => { b with state := { b.state with operationMode := toOperationMode mode } }
  | .MrmState state behavior =>
    { b with state := { b.state with mrmState := {
        isActive := decide (state ≠ .Normal ∧ state ≠ .Unknown)
        behavior := toMrmBehavior behavior
        description := mrmDescription state } } }
  | .Heartbeat now => { b with lastHeartbeatTime := now, state := { b.state with systemAlive := true } }
  | .DiagState diags => { b with state := { b.state with components := diags.foldl pushComponent [] } }

/-- `buildFrame`. -/
def buildFrame (stampNs : Int64) (seq : UInt64) (s : TripFrameState R) : TripFrame R where
  stampNs := stampNs
  seq := seq
  localizationState := s.localizationState
  operationMode := s.operationMode
  mrmState := s.mrmState
  systemAlive := s.systemAlive
  componentHealth := s.components
  tripState := s.tripState
  startLaneletId := s.startLaneletId
  startX := s.startX
  startY := s.startY
  startZ := s.startZ
  goalLaneletId := s.goalLaneletId
  goalX := s.goalX
  goalY := s.goalY
  goalZ := s.goalZ
  goalDistanceM := s.goalDistanceM

/-- A heartbeat is less than a second old. -/
def alive (now lastHeartbeatTime : Int) : Bool := decide (now - lastHeartbeatTime < 1000000000)

/-- What `onTick` stores of the clock and of the trip's status before it builds a frame. -/
def onTick (now : Int) (status : TripStatus R) (b : TripBridge R) : TripFrameState R :=
  { b.state with
    systemAlive := alive now b.lastHeartbeatTime
    tripState := toTripState status.state
    startLaneletId := status.startLaneletId
    startX := status.startPose.x
    startY := status.startPose.y
    startZ := status.startPose.z
    goalLaneletId := status.goalLaneletId
    goalX := status.goalPose.x
    goalY := status.goalPose.y
    goalZ := status.goalPose.z
    goalDistanceM := status.goalDistanceM }

/-- What the strand runs next. A tick reads the clock, the controller's status, and
    the clock again. -/
inductive Input (R : Type)
  | Message (msg : Message)
  | Tick (now : Int) (status : TripStatus R) (stampNs : Int64)
  deriving DecidableEq, Repr

/-- One step: a handler, or `onTick`, which publishes a frame. Neither fails. -/
def step (b : TripBridge R) : Input R → Except Empty (TripBridge R × List (TripFrame R))
  | .Message msg => .ok (onMessage b msg, [])
  | .Tick now status stampNs =>
    .ok ({ b with state := onTick now status b, frameSeq := b.frameSeq + 1 },
      [buildFrame stampNs b.frameSeq (onTick now status b)])

variable (R) in
/-- The bridge's machine, constructed at a time of the clock. -/
def machine [Zero R] (booted : Int) : Machine (TripBridge R) (Input R) (TripFrame R) Empty where
  Start b := b = ⟨.initial, 0, booted⟩
  step := step

/-! ### What a frame shows -/

/-- What the handlers have written, without what every tick writes anew. -/
structure Heard where
  localizationState : LocalizationState
  operationMode : OperationMode
  mrmState : MrmState
  components : List ComponentHealth
  lastHeartbeatTime : Int
  deriving DecidableEq, Repr

def TripBridge.heard (b : TripBridge R) : Heard :=
  ⟨b.state.localizationState, b.state.operationMode, b.state.mrmState, b.state.components, b.lastHeartbeatTime⟩

/-- What was heard when the bridge was constructed. -/
def Heard.initial (booted : Int) : Heard := ⟨.Unknown, .Unknown, ⟨false, .None, ""⟩, [], booted⟩

/-- What a message writes of what was heard. -/
def Heard.write (h : Heard) : Message → Heard
  | .LocalizationState state => { h with localizationState := toLocalizationState state }
  | .OperationMode mode => { h with operationMode := toOperationMode mode }
  | .MrmState state behavior =>
    { h with mrmState := ⟨decide (state ≠ .Normal ∧ state ≠ .Unknown), toMrmBehavior behavior, mrmDescription state⟩ }
  | .Heartbeat now => { h with lastHeartbeatTime := now }
  | .DiagState diags => { h with components := diags.foldl pushComponent [] }

theorem heard_onMessage (b : TripBridge R) (msg : Message) : (onMessage b msg).heard = b.heard.write msg := by
  cases msg <;> rfl

/-- What was heard is a board. -/
def board : Board Heard Message Topic where
  write := Heard.write
  topic := Message.topic
  overwrites := by
    intro m m' same h
    cases m <;> cases m' <;> first | rfl | cases same
  commutes := by
    intro m m' other h
    cases m <;> cases m' <;> first | rfl | exact absurd rfl other

/-- The frame of what was heard and of the trip's status. -/
def frameOf (now : Int) (status : TripStatus R) (stampNs : Int64) (seq : UInt64) (h : Heard) : TripFrame R where
  stampNs := stampNs
  seq := seq
  localizationState := h.localizationState
  operationMode := h.operationMode
  mrmState := h.mrmState
  systemAlive := alive now h.lastHeartbeatTime
  componentHealth := h.components
  tripState := toTripState status.state
  startLaneletId := status.startLaneletId
  startX := status.startPose.x
  startY := status.startPose.y
  startZ := status.startPose.z
  goalLaneletId := status.goalLaneletId
  goalX := status.goalPose.x
  goalY := status.goalPose.y
  goalZ := status.goalPose.z
  goalDistanceM := status.goalDistanceM

/-- The message of a handler. -/
def said : Input R → Option Message
  | .Message msg => some msg
  | .Tick _ _ _ => none

variable [Zero R]

/-- The frame of a tick. -/
def tickFrame : Input R → UInt64 → Heard → TripFrame R
  | .Tick now status stampNs => frameOf now status stampNs
  | .Message _ => fun seq _ => buildFrame 0 seq .initial

variable (R) in
def broadcast (booted : Int) : Broadcast (machine R booted) board where
  board := TripBridge.heard
  seq := TripBridge.frameSeq
  heard := said
  frame := tickFrame
  initial := .initial booted
  starts := by
    rintro b rfl
    exact ⟨rfl, rfl⟩
  hears := by
    intro b b' i os m stepped own
    cases i with
    | Message msg =>
      cases stepped
      cases own
      refine ⟨heard_onMessage b m, ?_, rfl⟩
      cases m <;> rfl
    | Tick now status stampNs => cases own
  ticks := by
    intro b b' i os stepped own
    cases i with
    | Message msg => cases own
    | Tick now status stampNs =>
      cases stepped
      exact ⟨rfl, rfl, rfl⟩

/-- The time of a heartbeat. -/
def heartbeatOf : Message → Option Int
  | .Heartbeat now => some now
  | _ => none

variable {booted : Int} {newer older : History (TripBridge R) (Input R) (TripFrame R)}
  {m : Moment (TripBridge R) (Input R) (TripFrame R)} {b : TripBridge R}

/-- In every run a frame has the number of the frames before it, shows the trip as
    its status is at the tick, and the rest as the latest messages of all topics
    have left it; the system is alive when the last heartbeat, or the construction
    of the bridge before the first one, is less than a second old. -/
theorem trip_shows_latest (run : Runs (machine R booted) (newer ++ m :: older) b) {now : Int} {status : TripStatus R}
    {stampNs : Int64} (tick : m.input = .Tick now status stampNs) {msgs : List Message}
    (same : ∀ t, board.latest t msgs = board.latest t ((broadcast R booted).messages older)) :
    ∃ frame, m.outputs = [frame] ∧
      frame = frameOf now status stampNs (.ofNat ((broadcast R booted).sent older)) (msgs.foldl Heard.write (.initial booted)) ∧
      (frame.systemAlive = true ↔
        now - (((broadcast R booted).messages older).filterMap heartbeatOf).getLast?.getD booted < 1000000000) := by
  have silent : (broadcast R booted).heard m.input = none := by
    rw [tick]
    rfl
  have sent := frame_latest run silent same
  rw [tick] at sent
  refine ⟨_, sent, rfl, ?_⟩
  have beat : (board.shows (.initial booted) msgs).lastHeartbeatTime =
      (((broadcast R booted).messages older).filterMap heartbeatOf).getLast?.getD booted := by
    rw [shows_eq_of_latest same]
    have last := view_last (B := board) Heard.lastHeartbeatTime heartbeatOf id
      (by intro h msg; cases msg <;> rfl) (.initial booted) ((broadcast R booted).messages older)
    rwa [Option.map_id] at last
  show alive now _ = true ↔ _
  rw [alive, decide_eq_true_iff]
  exact iff_of_eq (congrArg (now - · < 1000000000) beat)

end

/-- A trip that is on its way to the second lane. -/
def onItsWay : TripStatus ℚ where
  state := .Running
  startLaneletId := "1"
  startPose := ⟨0, 0, 0, 0, 1⟩
  startGps := ⟨0, 0⟩
  goalGps := ⟨0, 0⟩
  goalLaneletId := "2"
  goalPose := ⟨90, 0, 0, 0, 1⟩
  goalDistanceM := 90
  currentGps := ⟨0, 0⟩
  lastStateChange := 0

/-- One frame within a second of a heartbeat, and one two seconds after it. -/
theorem trip_shows_latest_here : ∃ newer m older, ∃ b : TripBridge ℚ, Runs (machine ℚ 0) (newer ++ m :: older) b ∧
    ∃ frame, m.outputs = [frame] ∧ frame = frameOf 4000000000 onItsWay 4 1
      ([Message.Heartbeat 2000000000, .OperationMode .Autonomous].foldl Heard.write (.initial 0)) ∧
      (frame.systemAlive = true ↔ (4000000000 : Int) - 2000000000 < 1000000000) := by
  obtain ⟨newer, m, older, b, run, passes⟩ := exists_run_at (M := machine ℚ 0) (s := ⟨.initial, 0, 0⟩)
    [.Message (.Heartbeat 500000000), .Message (.OperationMode .Autonomous), .Message (.Heartbeat 2000000000),
      .Tick 2500000000 onItsWay 2, .Tick 4000000000 onItsWay 4] rfl 0
    (fun _ m older _ => decide (m.input = .Tick 4000000000 onItsWay 4 ∧ (broadcast ℚ 0).sent older = 1 ∧
      (broadcast ℚ 0).messages older =
        [.Heartbeat 500000000, .OperationMode .Autonomous, .Heartbeat 2000000000])) (by decide +kernel)
  obtain ⟨tick, sent, heard⟩ := of_decide_eq_true passes
  have same : ∀ t, board.latest t [.Heartbeat 2000000000, .OperationMode .Autonomous] =
      board.latest t ((broadcast ℚ 0).messages older) := by
    intro t
    rw [heard]
    cases t <;> rfl
  obtain ⟨frame, out, shows, beats⟩ := trip_shows_latest run tick same
  rw [sent] at shows
  rw [heard] at beats
  exact ⟨newer, m, older, b, run, frame, out, shows, beats⟩

end AutowareAgent.TripFrames
