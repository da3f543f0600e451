import AutowareAgent.Plannings
import AutowareAgent.TripFrames

/-!
What three bridges show of the topics that they share. Each is subscribed on its
own and sends frames on its own; the handlers of `ClusterBridge` store the parts of
a message where those of `PlanningBridge` and of `TripBridge` store it as a whole.
Bridges that have handled the same message of a topic last show the same of it.
-/
namespace AutowareAgent.Frames
open AutowareAgent.Machines AutowareAgent.Boards AutowareAgent.Lanes AutowareAgent.Clusters

/-- The topics of the messages of `ClusterBridge`. -/
inductive Topic
  | Velocity
  | Gear
  | Steering
  | HazardLights
  | TurnIndicators
  | ControlMode
  | BatteryStatus
  | Kinematics
  | MotionState
  | TargetVelocity
  | VelocityLimit
  | Eta
  | TrafficSignals
  | Objects
  | MrmState
  deriving DecidableEq, Repr

def topic {R F : Type} : Message R F → Topic
  | .Velocity _ => .Velocity
  | .Gear _ => .Gear
  | .Steering _ => .Steering
  | .HazardLights _ => .HazardLights
  | .TurnIndicators _ => .TurnIndicators
  | .ControlMode _ => .ControlMode
  | .BatteryStatus _ => .BatteryStatus
  | .Kinematics _ _ _ _ => .Kinematics
  | .MotionState _ => .MotionState
  | .TargetVelocity _ => .TargetVelocity
  | .VelocityLimit _ => .VelocityLimit
  | .Eta _ _ => .Eta
  | .TrafficSignals _ => .TrafficSignals
  | .Objects _ => .Objects
  | .MrmState _ _ => .MrmState

section
variable {R F : Type}

/-- The message of a handler. -/
def heard : Input R F → Option (Message R F)
  | .Message msg => some msg
  | .Tick _ => none

/-- The frame of a tick. -/
def tickFrame : Input R F → UInt64 → FrameState R F → VehicleFrame F
  | .Tick stampNs => buildFrame stampNs
  | .Message _ => buildFrame 0

variable [Floats R F] [NatCast F] [Div F] [LT F] [DecidableLT F] [Mul F] [CMath F]

variable (R F) in
/-- The state of `ClusterBridge` is a board. -/
def board : Board (FrameState R F) (Message R F) Topic where
  write := onMessage
  topic := topic
  overwrites := by
    intro m m' same s
    cases m <;> cases m' <;> first | rfl | cases same
  commutes := by
    intro m m' other s
    cases m <;> cases m' <;> first | rfl | exact absurd rfl other

variable [Zero R] [Zero F]

variable (R F) in
def broadcast : Broadcast (machine (R := R) (F := F)) (board R F) where
  board := ClusterBridge.state
  seq := ClusterBridge.frameSeq
  heard := heard
  frame := tickFrame
  initial := .initial
  starts := by
    rintro s rfl
    exact ⟨rfl, rfl⟩
  hears := by
    intro s s' i os m stepped said
    cases i with
    | Message msg =>
      cases stepped
      cases said
      exact ⟨rfl, rfl, rfl⟩
    | Tick stampNs => cases said
  ticks := by
    intro s s' i os stepped said
    cases i with
    | Message msg => cases said
    | Tick stampNs =>
      cases stepped
      exact ⟨rfl, rfl, rfl⟩

end

/-! ### The topics that are shared -/

section
variable {R F : Type}

/-- The last part of some messages. -/
def last {μ β : Type} (part : μ → Option β) (msgs : List μ) : Option β := (msgs.filterMap part).getLast?

def etaOf : Message R F → Option (R × R)
  | .Eta remainingDistance remainingTime => some (remainingDistance, remainingTime)
  | _ => none

def targetOf : Message R F → Option F
  | .TargetVelocity data => some data
  | _ => none

def limitOf : Message R F → Option F
  | .VelocityLimit maxVelocity => some maxVelocity
  | _ => none

def mrmOf : Message R F → Option (MrmStateReport × MrmBehaviorReport)
  | .MrmState state behavior => some (state, behavior)
  | _ => none

/-- The same of the messages of `PlanningBridge`. -/
def planningEtaOf : Plannings.Message R F → Option (R × R)
  | .Eta remainingDistance remainingTime => some (remainingDistance, remainingTime)
  | _ => none

def planningTargetOf : Plannings.Message R F → Option F
  | .TargetVelocity data => some data
  | _ => none

def planningLimitOf : Plannings.Message R F → Option F
  | .VelocityLimit maxVelocity => some maxVelocity
  | _ => none

/-- The same of the messages of `TripBridge`. -/
def tripMrmOf : TripFrames.Message → Option (MrmStateReport × MrmBehaviorReport)
  | .MrmState state behavior => some (state, behavior)
  | _ => none

/-- An estimate as it is shown. -/
def shownEta [Floats R F] (eta : R × R) : EtaData F := ⟨Floats.toFloat eta.1, Floats.toFloat eta.2⟩

/-- A state of the minimum risk manoeuvre as it is shown. -/
def shownMrm (mrm : MrmStateReport × MrmBehaviorReport) : MrmState where
  isActive := decide (mrm.1 ≠ .Normal ∧ mrm.1 ≠ .Unknown)
  behavior := toMrmState mrm.2
  description := mrmDescription mrm.1

variable [Floats R F] [Zero F]

/-- What a frame of `PlanningBridge` shows of them. -/
theorem planning_shows {past : History (Plannings.PlanningBridge R F) (Plannings.Input R F) (Plannings.PlanningFrame R F)}
    {frame : Plannings.PlanningFrame R F} (sent : SentAfter (Plannings.machine R F) past frame) :
    let msgs := (Plannings.broadcast R F).messages past
    frame.eta = ((last planningEtaOf msgs).map shownEta).getD ⟨0, 0⟩ ∧
      frame.targetSpeedMps = (last planningTargetOf msgs).getD 0 ∧
      frame.maxSpeedMps = (last planningLimitOf msgs).getD 0 := by
  obtain ⟨i, tick, shows⟩ := sentAfter_shows (X := Plannings.broadcast R F) sent
  cases i with
  | Message msg => cases tick
  | Tick stampNs =>
    subst shows
    refine ⟨?_, ?_, ?_⟩
    · exact view_last (B := Plannings.board R F) Plannings.PlanningFrameState.eta planningEtaOf shownEta
        (by intro s m; cases m <;> rfl) _ _
    · have shown := view_last (B := Plannings.board R F) Plannings.PlanningFrameState.targetSpeedMps planningTargetOf id
        (by intro s m; cases m <;> rfl) .initial ((Plannings.broadcast R F).messages past)
      rwa [Option.map_id] at shown
    · have shown := view_last (B := Plannings.board R F) Plannings.PlanningFrameState.maxSpeedMps planningLimitOf id
        (by intro s m; cases m <;> rfl) .initial ((Plannings.broadcast R F).messages past)
      rwa [Option.map_id] at shown

/-- What a frame of `TripBridge` shows of them. -/
theorem trip_shows [Zero R] {booted : Int}
    {past : History (TripFrames.TripBridge R) (TripFrames.Input R) (TripFrames.TripFrame R)}
    {frame : TripFrames.TripFrame R} (sent : SentAfter (TripFrames.machine R booted) past frame) :
    frame.mrmState =
      ((last tripMrmOf ((TripFrames.broadcast R booted).messages past)).map shownMrm).getD ⟨false, .None, ""⟩ := by
  obtain ⟨i, tick, shows⟩ := sentAfter_shows (X := TripFrames.broadcast R booted) sent
  cases i with
  | Message msg => cases tick
  | Tick now status stampNs =>
    subst shows
    refine view_last (B := TripFrames.board) TripFrames.Heard.mrmState tripMrmOf shownMrm ?_ _ _
    intro h m
    cases m with
    | MrmState state behavior => cases behavior <;> rfl
    | _ => rfl

variable [NatCast F] [Div F] [LT F] [DecidableLT F] [Mul F] [CMath F] [Zero R]

/-- What a frame of `ClusterBridge` shows of them. -/
theorem cluster_shows {past : History (ClusterBridge R F) (Input R F) (VehicleFrame F)} {frame : VehicleFrame F}
    (sent : SentAfter (machine (R := R) (F := F)) past frame) :
    let msgs := (broadcast R F).messages past
    frame.eta = ((last etaOf msgs).map shownEta).getD ⟨0, 0⟩ ∧ frame.targetSpeedMps = (last targetOf msgs).getD 0 ∧
      frame.speedLimitMps = (last limitOf msgs).getD 0 ∧
      frame.mrm = ((last mrmOf msgs).map shownMrm).getD ⟨false, .None, ""⟩ := by
  obtain ⟨i, tick, shows⟩ := sentAfter_shows (X := broadcast R F) sent
  cases i with
  | Message msg => cases tick
  | Tick stampNs =>
    subst shows
    refine ⟨?_, ?_, ?_, ?_⟩
    · exact view_last (B := board R F) (fun s => (⟨s.remainingDistanceM, s.remainingTimeS⟩ : EtaData F)) etaOf shownEta
        (by intro s m; cases m <;> rfl) _ _
    · have shown := view_last (B := board R F) FrameState.targetSpeedMps targetOf id
        (by intro s m; cases m <;> rfl) .initial ((broadcast R F).messages past)
      rwa [Option.map_id] at shown
    · have shown := view_last (B := board R F) FrameState.speedLimitMps limitOf id
        (by intro s m; cases m <;> rfl) .initial ((broadcast R F).messages past)
      rwa [Option.map_id] at shown
    · exact view_last (B := board R F) (fun s => (⟨s.isActive, s.mrmBehavior, s.description⟩ : MrmState)) mrmOf shownMrm
        (by intro s m; cases m <;> rfl) _ _

/-- Frames of the three bridges, each at the end of any run of its own, agree on what
    the bridges share, topic by topic: where the last message that two of them have
    handled on a topic is the same, or neither has handled one, their frames show the same. -/
theorem bridges_agree {booted : Int} {past₁ : History (ClusterBridge R F) (Input R F) (VehicleFrame F)}
    {past₂ : History (Plannings.PlanningBridge R F) (Plannings.Input R F) (Plannings.PlanningFrame R F)}
    {past₃ : History (TripFrames.TripBridge R) (TripFrames.Input R) (TripFrames.TripFrame R)} {v : VehicleFrame F}
    {p : Plannings.PlanningFrame R F} {t : TripFrames.TripFrame R}
    (cluster : SentAfter (machine (R := R) (F := F)) past₁ v) (planning : SentAfter (Plannings.machine R F) past₂ p)
    (trip : SentAfter (TripFrames.machine R booted) past₃ t) :
    let msgs₁ := (broadcast R F).messages past₁
    let msgs₂ := (Plannings.broadcast R F).messages past₂
    let msgs₃ := (TripFrames.broadcast R booted).messages past₃
    (last etaOf msgs₁ = last planningEtaOf msgs₂ → v.eta = p.eta) ∧
      (last targetOf msgs₁ = last planningTargetOf msgs₂ → v.targetSpeedMps = p.targetSpeedMps) ∧
      (last limitOf msgs₁ = last planningLimitOf msgs₂ → v.speedLimitMps = p.maxSpeedMps) ∧
      (last mrmOf msgs₁ = last tripMrmOf msgs₃ → v.mrm = t.mrmState) := by
  obtain ⟨eta, target, limit, mrm⟩ := cluster_shows cluster
  obtain ⟨eta', target', limit'⟩ := planning_shows planning
  have mrm' := trip_shows trip
  refine ⟨?_, ?_, ?_, ?_⟩
  · intro same
    rw [eta, eta', same]
  · intro same
    rw [target, target', same]
  · intro same
    rw [limit, limit', same]
  · intro same
    rw [mrm, mrm', same]

end

section
attribute [local instance] streetMath sameFloats

/-- The planner's estimate reaches one bridge before its limit and the other after
    it, and an earlier limit reaches the one alone. -/
theorem bridges_agree_here : ∃ (v : VehicleFrame ℚ) (p : Plannings.PlanningFrame ℚ ℚ) (t : TripFrames.TripFrame ℚ),
    v.eta = ⟨900, 60⟩ ∧ v.eta = p.eta ∧ v.speedLimitMps = p.maxSpeedMps ∧ v.mrm = t.mrmState := by
  obtain ⟨newer₁, m₁, older₁, b₁, cluster, passes₁⟩ := exists_run_at (M := machine (R := ℚ) (F := ℚ)) (s := ⟨.initial, 0⟩)
    [.Message (.VelocityLimit 14), .Message (.VelocityLimit 8), .Message (.Eta 900 60),
      .Message (.MrmState .MrmOperating .PullOver), .Tick 0] rfl 0
    (fun _ m older _ => decide ((broadcast ℚ ℚ).messages older =
        [.VelocityLimit 14, .VelocityLimit 8, .Eta 900 60, .MrmState .MrmOperating .PullOver] ∧
      m.outputs.map VehicleFrame.eta = [⟨900, 60⟩])) (by decide +kernel)
  obtain ⟨heard₁, shows⟩ := of_decide_eq_true passes₁
  obtain ⟨newer₂, m₂, older₂, b₂, planning, passes₂⟩ := exists_run_at (M := Plannings.machine ℚ ℚ) (s := ⟨.initial, 0⟩)
    [.Message (.Eta 900 60), .Message (.VelocityLimit 8), .Tick 0] rfl 0
    (fun _ m older _ => decide ((Plannings.broadcast ℚ ℚ).messages older = [.Eta 900 60, .VelocityLimit 8] ∧
      m.outputs ≠ [])) (by decide +kernel)
  obtain ⟨heard₂, some₂⟩ := of_decide_eq_true passes₂
  obtain ⟨newer₃, m₃, older₃, b₃, trip, passes₃⟩ := exists_run_at (M := TripFrames.machine ℚ 0) (s := ⟨.initial, 0, 0⟩)
    [.Message (.MrmState .MrmOperating .PullOver), .Tick 0 TripFrames.onItsWay 0] rfl 0
    (fun _ m older _ => decide ((TripFrames.broadcast ℚ 0).messages older = [.MrmState .MrmOperating .PullOver] ∧
      m.outputs ≠ [])) (by decide +kernel)
  obtain ⟨heard₃, some₃⟩ := of_decide_eq_true passes₃
  obtain ⟨v, out₁, eta⟩ := List.map_eq_singleton_iff.mp shows
  obtain ⟨p, out₂⟩ := List.exists_mem_of_ne_nil _ some₂
  obtain ⟨t, out₃⟩ := List.exists_mem_of_ne_nil _ some₃
  have agree := bridges_agree (v := v) (p := p) (t := t) ⟨newer₁, m₁, b₁, cluster, by simp [out₁]⟩
    ⟨newer₂, m₂, b₂, planning, out₂⟩ ⟨newer₃, m₃, b₃, trip, out₃⟩
  rw [heard₁, heard₂, heard₃] at agree
  exact ⟨v, p, t, eta, agree.1 rfl, agree.2.2.1 rfl, agree.2.2.2 rfl⟩

end
end AutowareAgent.Frames
