import AutowareAgent.Bridges
import AutowareAgent.Frames
import Mathlib.Algebra.Order.Ring.Unbundled.Rat

/-!
`PerceptionBridge` as a whole, and the surroundings as its frames and those of
`ClusterBridge` show them. Each bridge is subscribed to the objects and the traffic
lights on its own. Whatever else reaches one of them and not the other, and in
whatever order, frames that rest on the same message show the same objects, and the
lights that one shows are flagged by the other.
-/
namespace AutowareAgent.Surroundings
open AutowareAgent.Machines AutowareAgent.Boards AutowareAgent.Lanes AutowareAgent.Clusters AutowareAgent.Perceptions
open AutowareAgent.Bridges AutowareAgent.Frames

/-! ### The bridge -/

inductive Topic
  | Objects
  | PointCloud
  | OccupancyGrid
  | TrafficSignal
  deriving DecidableEq, Repr

/-- The messages of the four subscriptions; `β` are the point clouds. -/
inductive Message (R F β : Type)
  | Objects (msg : PredictedObjects R F)
  | PointCloud (msg : β)
  | OccupancyGrid (msg : OccupancyGridMessage R F)
  | TrafficSignal (msg : TrafficLightGroupArray F)

def Message.topic {R F β : Type} : Message R F β → Topic
  | .Objects _ => .Objects
  | .PointCloud _ => .PointCloud
  | .OccupancyGrid _ => .OccupancyGrid
  | .TrafficSignal _ => .TrafficSignal

/-- The members of `PerceptionBridge` that its strand uses. -/
structure PerceptionBridge (R F : Type) where
  state : PerceptionFrameState R F
  frameSeq : UInt64
  deriving DecidableEq, Repr

/-- What the strand runs next. -/
inductive Input (R F β : Type)
  | Message (msg : Message R F β)
  | Tick (stampNs : Int64)

/-- `PerceptionFrameState{}`. -/
def initialState {R F : Type} [Zero F] : PerceptionFrameState R F := ⟨[], [], ⟨0, 0, 0, 0, 0, []⟩, []⟩

/-- The filters of a point cloud, from outside the repository. -/
structure CloudFilter (F β : Type) where
  voxelGrid : β → List (Vector3 F)
  isfinite : F → Bool

section
variable {R F β : Type} [Floats R F] [Add R] [Sub R] [Mul R] [NatCast R] [CMath R] [NatCast F] [Div F] [LT F]
  [DecidableLT F] (P : CloudFilter F β)

/-- The handler of a message. -/
def onMessage (s : PerceptionFrameState R F) : Message R F β → PerceptionFrameState R F
  | .Objects msg => onSurroundingObjectImpl msg s
  | .PointCloud msg => onPointCloudImpl P.voxelGrid P.isfinite msg s
  | .OccupancyGrid msg => onOccupancyGridImpl msg s
  | .TrafficSignal msg => onTrafficSignalImpl msg s

/-- One step: a handler, or `onTick`, which publishes a frame. Neither fails. -/
def step (b : PerceptionBridge R F) :
    Input R F β → Except Empty (PerceptionBridge R F × List (PerceptionFrame R F))
  | .Message msg => .ok ({ b with state := onMessage P b.state msg }, [])
  | .Tick stampNs =>
    .ok ({ b with frameSeq := b.frameSeq + 1 }, [Perceptions.buildFrame stampNs b.frameSeq b.state])

variable (R) in
def machine [Zero F] : Machine (PerceptionBridge R F) (Input R F β) (PerceptionFrame R F) Empty where
  Start b := b = ⟨initialState, 0⟩
  step := step P

variable (R) in
/-- The state of `PerceptionBridge` is a board. -/
def board : Board (PerceptionFrameState R F) (Message R F β) Topic where
  write := onMessage P
  topic := Message.topic
  overwrites := by
    intro m m' same s
    cases m <;> cases m' <;> first | rfl | cases same
  commutes := by
    intro m m' other s
    cases m <;> cases m' <;> first | rfl | exact absurd rfl other

/-- The message of a handler. -/
def heard : Input R F β → Option (Message R F β)
  | .Message msg => some msg
  | .Tick _ => none

/-- The frame of a tick. -/
def tickFrame : Input R F β → UInt64 → PerceptionFrameState R F → PerceptionFrame R F
  | .Tick stampNs => Perceptions.buildFrame stampNs
  | .Message _ => Perceptions.buildFrame 0

variable (R) in
def broadcast [Zero F] : Broadcast (machine R P) (board R P) where
  board := PerceptionBridge.state
  seq := PerceptionBridge.frameSeq
  heard := heard
  frame := tickFrame
  initial := initialState
  starts := by
    rintro s rfl
    exact ⟨rfl, rfl⟩
  hears := by
    intro s s' i os m stepped said
    cases i with
    | Message msg =>
      cases stepped
      cases said
      exact ⟨rfl, rfl, rfl⟩
    | Tick stampNs => cases said
  ticks := by
    intro s s' i os stepped said
    cases i with
    | Message msg => cases said
    | Tick stampNs =>
      cases stepped
      exact ⟨rfl, rfl, rfl⟩

end

/-! ### What the frames show -/

section
variable {R F β : Type}

def objectsOf : Clusters.Message R F → Option (PredictedObjects R F)
  | .Objects msg => some msg
  | _ => none

def signalsOf : Clusters.Message R F → Option (TrafficLightGroupArray F)
  | .TrafficSignals msg => some msg
  | _ => none

/-- The same of the messages of `PerceptionBridge`. -/
def perceivedOf : Message R F β → Option (PredictedObjects R F)
  | .Objects msg => some msg
  | _ => none

def perceivedSignalsOf : Message R F β → Option (TrafficLightGroupArray F)
  | .TrafficSignal msg => some msg
  | _ => none

variable [Floats R F] [Zero F] [NatCast F] [Div F]

section
variable [LT F] [DecidableLT F] [Mul F] [CMath F] [Zero R]

/-- What a frame of `ClusterBridge` shows of the surroundings. -/
theorem cluster_sees {past : History (ClusterBridge R F) (Clusters.Input R F) (VehicleFrame F)} {frame : VehicleFrame F}
    (sent : SentAfter (Clusters.machine (R := R) (F := F)) past frame) :
    let msgs := (Frames.broadcast R F).messages past
    frame.surroundObjects =
        ((last objectsOf msgs).map fun msg => msg.objects.foldl pushSurround []).getD [] ∧
      (⟨frame.adas.trafficLightRed, frame.adas.trafficLightGreen, frame.adas.trafficLightYellow⟩ : Signals) =
        ((last signalsOf msgs).map fun msg => msg.trafficLightGroups.foldl
          (fun n group => group.elements.foldl noteElement n) ⟨false, false, false⟩).getD ⟨false, false, false⟩ := by
  obtain ⟨i, tick, shows⟩ := sentAfter_shows (X := Frames.broadcast R F) sent
  cases i with
  | Message msg => cases tick
  | Tick stampNs =>
    subst shows
    constructor
    · exact view_last (B := Frames.board R F) FrameState.surroundObjects objectsOf
        (fun msg => msg.objects.foldl pushSurround []) (by intro s m; cases m <;> rfl) _ _
    · exact view_last (B := Frames.board R F)
        (fun s => (⟨s.trafficLightRed, s.trafficLightGreen, s.trafficLightYellow⟩ : Signals)) signalsOf
        (fun msg => msg.trafficLightGroups.foldl (fun n group => group.elements.foldl noteElement n) ⟨false, false, false⟩)
        (by intro s m; cases m <;> rfl) _ _

end

section
variable [LT F] [DecidableLT F] [Add R] [Sub R] [Mul R] [NatCast R] [CMath R] {P : CloudFilter F β}

/-- What a frame of `PerceptionBridge` shows of them. -/
theorem perception_sees {past : History (PerceptionBridge R F) (Input R F β) (PerceptionFrame R F)}
    {frame : PerceptionFrame R F} (sent : SentAfter (machine R P) past frame) :
    let msgs := (broadcast R P).messages past
    frame.surroundingObjects =
        ((last perceivedOf msgs).map fun msg => msg.objects.foldl pushSurrounding []).getD [] ∧
      frame.trafficLights =
        ((last perceivedSignalsOf msgs).map fun msg => msg.trafficLightGroups.foldl pushLight []).getD [] := by
  obtain ⟨i, tick, shows⟩ := sentAfter_shows (X := broadcast R P) sent
  cases i with
  | Message msg => cases tick
  | Tick stampNs =>
    subst shows
    constructor
    · exact view_last (B := board R P) PerceptionFrameState.surroundingObjects perceivedOf
        (fun msg => msg.objects.foldl pushSurrounding []) (by intro s m; cases m <;> rfl) _ _
    · exact view_last (B := board R P) PerceptionFrameState.trafficLights perceivedSignalsOf
        (fun msg => msg.trafficLightGroups.foldl pushLight []) (by intro s m; cases m <;> rfl) _ _

end

/-! ### What they agree on -/

variable [LinearOrder F] [Add R] [Sub R] [Mul R] [NatCast R] [CMath R]

/-- Two lists of entries show the objects that are kept, in their order. -/
structure ShowObjects (objects : List (PredictedObject R F)) (shown : List (SurroundObject F))
    (perceived : List (SurroundingObject R F)) : Prop where
  many : shown.length = (objects.filter kept).length
  asMany : perceived.length = (objects.filter kept).length
  same : ∀ i object, (objects.filter kept)[i]? = some object → ∃ entry entry', shown[i]? = some entry ∧
    perceived[i]? = some entry' ∧ SameObject i object entry entry'

/-- A light that is shown in a colour is flagged. -/
def Flagged (light : TrafficLight F) (flags : AdasSummary) : Prop :=
  (light.trafficLightColor = .Red → flags.trafficLightRed = true) ∧
  (light.trafficLightColor = .Amber → flags.trafficLightYellow = true) ∧
  (light.trafficLightColor = .Green → flags.trafficLightGreen = true)

omit [Zero F] in
theorem showObjects (objects : List (PredictedObject R F)) (sent : objects.length < 2 ^ 32) :
    ShowObjects objects (objects.foldl pushSurround []) (objects.foldl pushSurrounding []) := by
  rw [surround_eq, surrounding_eq]
  refine ⟨List.length_mapIdx, List.length_mapIdx, fun i object here => ?_⟩
  have inside := (List.getElem?_eq_some_iff.mp here).1
  have few : (objects.filter kept).length ≤ objects.length := List.length_filter_le _ _
  have small : i < 2 ^ 32 := by omega
  exact ⟨_, _, by simp [here], by simp [here], sameObject object small⟩

variable [Zero R] [Mul F] [CMath F] {P : CloudFilter F β}

/-- Frames of the two bridges, each at the end of any run of its own, over confidences
    that are totally ordered (no NaN): if the last message about objects that they have
    handled is the same, or neither has handled one, they show its objects, in its
    order; and if the last message about traffic lights is the same, a light that one
    shows in a colour is flagged by the other. -/
theorem surroundings_agree {past₁ : History (ClusterBridge R F) (Clusters.Input R F) (VehicleFrame F)}
    {past₂ : History (PerceptionBridge R F) (Input R F β) (PerceptionFrame R F)} {v : VehicleFrame F}
    {p : PerceptionFrame R F} (cluster : SentAfter (Clusters.machine (R := R) (F := F)) past₁ v)
    (perception : SentAfter (machine R P) past₂ p) :
    let msgs₁ := (Frames.broadcast R F).messages past₁
    let msgs₂ := (broadcast R P).messages past₂
    (last objectsOf msgs₁ = last perceivedOf msgs₂ →
        ShowObjects (((last objectsOf msgs₁).map PredictedObjects.objects).getD []) v.surroundObjects
          p.surroundingObjects) ∧
      (last signalsOf msgs₁ = last perceivedSignalsOf msgs₂ → ∀ light ∈ p.trafficLights, Flagged light v.adas) := by
  obtain ⟨objects, flags⟩ := cluster_sees cluster
  obtain ⟨objects', lights⟩ := perception_sees perception
  constructor
  · intro same
    rw [objects, objects', ← same]
    cases last objectsOf ((Frames.broadcast R F).messages past₁) with
    | none => exact showObjects [] (by simp)
    | some msg => exact showObjects msg.objects msg.sent
  · intro same light member
    rw [lights, ← same] at member
    cases heard : last signalsOf ((Frames.broadcast R F).messages past₁) with
    | none =>
      rw [heard] at member
      cases member
    | some msg =>
      rw [heard] at member flags
      have red := congrArg Signals.red flags
      have green := congrArg Signals.green flags
      have yellow := congrArg Signals.yellow flags
      obtain ⟨isRed, isYellow, isGreen⟩ := flags_iff msg (.initial : FrameState R F)
      refine ⟨fun own => red.trans ?_, fun own => yellow.trans ?_, fun own => green.trans ?_⟩
      · exact isRed.mpr (light_color member own (by simp))
      · exact isYellow.mpr (light_color member own (by simp))
      · exact isGreen.mpr (light_color member own (by simp))

end

section
attribute [local instance] streetMath sameFloats

/-- A group with a red element that is less sure than a green one. -/
def crossing : TrafficLightGroup ℚ := ⟨3, [⟨.Red, 1 / 4⟩, ⟨.Green, 3 / 4⟩]⟩

/-- A car and the lights of a crossing reach one bridge in one order and the other,
    with a grid between them, in the other order. -/
theorem surroundings_agree_here : ∃ (v : VehicleFrame ℚ) (p : PerceptionFrame ℚ ℚ),
    v.surroundObjects.map SurroundObject.type = ["VEHICLE"] ∧
    p.trafficLights = [⟨3, 3 / 4, .Green⟩] ∧ ShowObjects [carAhead] v.surroundObjects p.surroundingObjects ∧
    ∀ light ∈ p.trafficLights, Flagged light v.adas := by
  let objects : PredictedObjects ℚ ℚ := ⟨[carAhead], by decide⟩
  let lights : TrafficLightGroupArray ℚ := ⟨[crossing]⟩
  let cloud : CloudFilter ℚ (List (Vector3 ℚ)) := ⟨id, fun _ => true⟩
  obtain ⟨newer₁, m₁, older₁, b₁, cluster, passes₁⟩ := exists_run_at (M := Clusters.machine (R := ℚ) (F := ℚ))
    (s := ⟨.initial, 0⟩) [.Message (.Objects objects), .Message (.TrafficSignals lights), .Tick 0] rfl 0
    (fun _ m older _ => decide (last objectsOf ((Frames.broadcast ℚ ℚ).messages older) = some objects ∧
      last signalsOf ((Frames.broadcast ℚ ℚ).messages older) = some lights ∧
      m.outputs.map (fun frame => frame.surroundObjects.map SurroundObject.type) = [["VEHICLE"]])) (by decide +kernel)
  obtain ⟨seen, lit, typed⟩ := of_decide_eq_true passes₁
  obtain ⟨newer₂, m₂, older₂, b₂, perception, passes₂⟩ := exists_run_at (M := machine ℚ cloud)
    (s := ⟨initialState, 0⟩) [.Message (.TrafficSignal lights), .Message (.OccupancyGrid ⟨1, 1, 1, 0, 0, [100]⟩),
      .Message (.Objects objects), .Tick 0] rfl 0
    (fun _ m older _ => decide (last perceivedOf ((broadcast ℚ cloud).messages older) = some objects ∧
      last perceivedSignalsOf ((broadcast ℚ cloud).messages older) = some lights ∧
      m.outputs.map PerceptionFrame.trafficLights = [[⟨3, 3 / 4, .Green⟩]])) (by decide +kernel)
  obtain ⟨seen', lit', shown⟩ := of_decide_eq_true passes₂
  obtain ⟨v, out₁, vehicle⟩ := List.map_eq_singleton_iff.mp typed
  obtain ⟨p, out₂, green⟩ := List.map_eq_singleton_iff.mp shown
  obtain ⟨same, flagged⟩ := surroundings_agree (v := v) (p := p) ⟨newer₁, m₁, b₁, cluster, by simp [out₁]⟩
    ⟨newer₂, m₂, b₂, perception, by simp [out₂]⟩
  have shows := same (seen.trans seen'.symm)
  rw [seen] at shows
  exact ⟨v, p, vehicle, green, shows, flagged (lit.trans lit'.symm)⟩

end
end AutowareAgent.Surroundings
