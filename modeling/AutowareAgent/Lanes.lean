import AutowareAgent.Memo
import AutowareAgent.Numerals
import Mathlib.Data.Nat.Sqrt
import Mathlib.Algebra.Ring.Rat
import Mathlib.Data.Nat.Cast.Defs

/-!
`LaneletMap`: the lanelets of the loaded map, the lookups by GPS point and by
identifier, and the cache that they share. What the constructor fixes (the
layer, the routing graph, the projector, the local offset) is a `MapData`; what
the lookups change (`cache_`, `default_start_`) is the `LaneletMap` itself.
Numbers are of any type with the operations that the code uses on `double`.
-/
namespace AutowareAgent.Lanes
open AutowareAgent.Memo AutowareAgent.Numerals

/-- The functions of `<cmath>` that the code calls. -/
class CMath (R : Type) where
  sqrt : R → R
  sin : R → R
  cos : R → R
  atan2 : R → R → R
  pi : R

/-- `lanelet::Id`. -/
abbrev LaneId := Int64
/-- `lanelet::InvalId`. -/
def InvalId : LaneId := 0

/-- Why a call does not return: it throws, or it reads what is not there, or no longer. -/
inductive Fault
  | NoSuchPrimitive
  | CenterlineOutOfRange
  | UnassignedPoint
  | DestroyedAdapter
  | Numeral (reason : NumeralError)
  deriving DecidableEq, Repr

structure GPSCoordinate (R : Type) where
  latitude : R
  longitude : R
  deriving DecidableEq, Repr

/-- `LocalCoordinate`, and the points of centrelines. -/
structure LocalCoordinate (R : Type) where
  x : R
  y : R
  z : R
  deriving DecidableEq, Repr

structure Orientation (R : Type) where
  x : R
  y : R
  z : R
  w : R
  yawDegrees : R
  deriving DecidableEq, Repr

structure LaneInfo (R : Type) where
  laneId : LaneId
  gps : GPSCoordinate R
  localPoint : LocalCoordinate R
  orientation : Orientation R
  deriving DecidableEq, Repr

structure FixedStartPosition (R : Type) where
  name : String
  gps : GPSCoordinate R
  localPoint : LocalCoordinate R
  orientation : Orientation R
  deriving DecidableEq, Repr

/-- What the lookups read of a lanelet. -/
structure Lanelet (R : Type) where
  id : LaneId
  subtype : Option String
  centerline : List (LocalCoordinate R)
  deriving DecidableEq, Repr

/-- What the constructor of `LaneletMap` fixes. The projector and the routing
    graph are functions of their arguments. -/
structure MapData (R : Type) where
  laneletLayer : List (Lanelet R)
  reachableSet : Lanelet R → R → List (Lanelet R)
  forward : R → R → R → LocalCoordinate R
  reverse : LocalCoordinate R → GPSCoordinate R
  offsetX : R
  offsetY : R

/-- The mutable members of `LaneletMap`. -/
structure LaneletMap (R : Type) where
  cache : List (LaneInfo R)
  defaultStart : Option (FixedStartPosition R)
  deriving DecidableEq, Repr

/-- A map as the constructor leaves it. -/
def LaneletMap.fresh {R : Type} : LaneletMap R := ⟨[], none⟩

/-- What a call returns is checked by making it. -/
instance decidableReturns {ε α : Type} {x : Except ε α} {P : α → Prop} [DecidablePred P] :
    Decidable (∃ a, x = .ok a ∧ P a) :=
  match x with
  | .ok a => decidable_of_iff (P a) (by simp)
  | .error _ => isFalse (by simp)

theorem bind_ok {ε α β : Type} {x : Except ε α} {f : α → Except ε β} {b : β} (run : x >>= f = .ok b) :
    ∃ a, x = .ok a ∧ f a = .ok b := by
  cases x with
  | error e => cases run
  | ok a => exact ⟨a, rfl, run⟩

theorem map_ok {ε α β : Type} {x : Except ε α} {f : α → β} {b : β} (run : x.map f = .ok b) :
    ∃ a, x = .ok a ∧ b = f a := by
  cases x with
  | error e => cases run
  | ok a =>
    cases run
    exact ⟨a, rfl, rfl⟩

/-- `map_->laneletLayer.get`. -/
def getLanelet {R : Type} (D : MapData R) (id : LaneId) : Except Fault (Lanelet R) :=
  match D.laneletLayer.find? (fun ll => ll.id = id) with
  | some ll => .ok ll
  | none => .error .NoSuchPrimitive

theorem getLanelet_id {R : Type} {D : MapData R} {id : LaneId} {ll : Lanelet R}
    (found : getLanelet D id = .ok ll) : ll.id = id := by
  unfold getLanelet at found
  split at found
  · rename_i held
    cases found
    simpa using List.find?_some held
  · cases found

theorem getLanelet_mem {R : Type} {D : MapData R} {id : LaneId} {ll : Lanelet R}
    (found : getLanelet D id = .ok ll) : ll ∈ D.laneletLayer := by
  unfold getLanelet at found
  split at found
  · rename_i held
    cases found
    exact List.mem_of_find?_eq_some held
  · cases found

/-- A lanelet is found exactly when the layer has one with the identifier. -/
theorem getLanelet_exists {R : Type} (D : MapData R) (id : LaneId) :
    (∃ ll, getLanelet D id = .ok ll) ↔ D.laneletLayer.any (fun ll => ll.id = id) = true := by
  unfold getLanelet
  cases found : D.laneletLayer.find? (fun ll => ll.id = id) with
  | some ll =>
    have member := List.mem_of_find?_eq_some found
    have same := List.find?_some found
    simp only [Except.ok.injEq, exists_eq', List.any_eq_true, true_iff]
    exact ⟨ll, member, same⟩
  | none =>
    have absent := List.find?_eq_none.mp found
    simp only [reduceCtorEq, exists_false, List.any_eq_true, false_iff, not_exists, not_and]
    exact absent

section
variable {R : Type} [Zero R] [Add R] [Sub R] [Mul R] [Div R] [NatCast R] [LT R] [DecidableLT R] [CMath R]

/-! ### Coordinates -/

/-- `gpsToLocal`. -/
def gpsToLocal (D : MapData R) (gps : GPSCoordinate R) : LocalCoordinate R :=
  D.forward gps.latitude gps.longitude 0

/-- `localToGps`. -/
def localToGps (D : MapData R) (p : LocalCoordinate R) : GPSCoordinate R := D.reverse p

/-- The distance in the plane. -/
def planeDistance (dx dy : R) : R := CMath.sqrt (dx * dx + dy * dy)

/-- `dist < min_dist`, where nothing stands for `numeric_limits<double>::max()`. -/
def below (dist : R) : Option R → Bool
  | none => true
  | some minDist => decide (dist < minDist)

/-- `std::clamp`. -/
def clamp (v lo hi : R) : R := if v < lo then lo else if hi < v then hi else v

/-! ### Lanelets -/

/-- Lanelets that the searches do not skip by their subtype. -/
def drivable (ll : Lanelet R) : Bool :=
  match ll.subtype with
  | some st => !(st == "crosswalk" || st == "walkway" || st == "stairs" || st == "pedestrian")
  | none => true

/-- `cl[cl.size() / 2]`, nothing for an empty centreline. -/
def midpoint (ll : Lanelet R) : Option (LocalCoordinate R) := ll.centerline[ll.centerline.length / 2]?

/-- `laneletYaw`. -/
def laneletYaw (ll : Lanelet R) : R :=
  if ll.centerline.length < 2 then 0
  else
    match ll.centerline.head?, ll.centerline.getLast? with
    | some p0, some p1 => CMath.atan2 (p1.y - p0.y) (p1.x - p0.x)
    | _, _ => 0

/-- `yawToQuat`: `qz` and `qw`. -/
def yawToQuat (yawRad : R) : R × R :=
  let h := yawRad / ((2 : Nat) : R)
  (CMath.sin h, CMath.cos h)

/-- The point of a segment that is closest to the target in the plane, at the
    height of the segment's first point. -/
def segmentPoint (target p0 p1 : LocalCoordinate R) : LocalCoordinate R :=
  let dx := p1.x - p0.x
  let dy := p1.y - p0.y
  let segLen2 := dx * dx + dy * dy
  let t := if 0 < segLen2
    then clamp (((target.x - p0.x) * dx + (target.y - p0.y) * dy) / segLen2) 0 ((1 : Nat) : R) else 0
  ⟨p0.x + t * dx, p0.y + t * dy, p0.z⟩

/-- One turn of the loop over the segments: `min_dist` and `best_point`, nothing
    while neither is assigned. -/
def closerPoint (target : LocalCoordinate R) (best : Option (R × LocalCoordinate R))
    (segment : LocalCoordinate R × LocalCoordinate R) : Option (R × LocalCoordinate R) :=
  let p := segmentPoint target segment.1 segment.2
  let dist := planeDistance (target.x - p.x) (target.y - p.y)
  if below dist (best.map Prod.fst) then some (dist, p) else best

/-- `projectOntoLaneCenterline`. A centreline of fewer than two points leaves
    `best_point` unassigned. -/
def projectOntoLaneCenterline (D : MapData R) (gps : GPSCoordinate R) (laneId : LaneId) :
    Except Fault (LocalCoordinate R) := do
  let ll ← getLanelet D laneId
  let target := gpsToLocal D gps
  match (ll.centerline.zip ll.centerline.tail).foldl (closerPoint target) none with
  | some (_, bestPoint) => .ok bestPoint
  | none => .error .UnassignedPoint

/-- What `makeLaneInfo` builds around the projected point. -/
def laneInfoAt (D : MapData R) (ll : Lanelet R) (projected : LocalCoordinate R) : LaneInfo R :=
  let yawRad := laneletYaw ll
  { laneId := ll.id
    gps := localToGps D projected
    localPoint := projected
    orientation := {
      x := 0
      y := 0
      z := (yawToQuat yawRad).1
      w := (yawToQuat yawRad).2
      yawDegrees := yawRad * ((180 : Nat) : R) / CMath.pi } }

/-- `makeLaneInfo`. -/
def makeLaneInfo (D : MapData R) (ll : Lanelet R) (gps : GPSCoordinate R) : Except Fault (LaneInfo R) := do
  let projected ← projectOntoLaneCenterline D gps ll.id
  return laneInfoAt D ll projected

/-! ### Searches -/

/-- One turn of the loop over the candidates: `min_dist` and `best_id`. -/
def nearerLane (D : MapData R) (target : LocalCoordinate R) (best : Option R × LaneId) (ll : Lanelet R) :
    Option R × LaneId :=
  if drivable ll then
    match midpoint ll with
    | none => best
    | some mid =>
      let lx := D.offsetX + mid.x
      let ly := D.offsetY + mid.y
      let dist := planeDistance (lx - target.x) (ly - target.y)
      if below dist best.1 then (some dist, ll.id) else best
  else best

/-- The loop of both searches: the first candidate whose centreline's midpoint
    is nearest, or `InvalId`. -/
def bestLane (D : MapData R) (target : LocalCoordinate R) (candidates : List (Lanelet R)) : LaneId :=
  (candidates.foldl (nearerLane D target) (none, InvalId)).2

/-- The candidates of `findNearestConnectedLane`. -/
def connectedLanes (D : MapData R) (reference : Lanelet R) (mustBeReachableFromRef : Bool) : List (Lanelet R) :=
  if mustBeReachableFromRef then D.reachableSet reference ((8000 : Nat) : R)
  else D.laneletLayer.filter fun ll =>
    (D.reachableSet ll ((8000 : Nat) : R)).any fun r => r.id = reference.id

/-- The lanelet that `findNearestLane` selects. -/
def nearestLane (D : MapData R) (gps : GPSCoordinate R) : Option LaneId :=
  if D.laneletLayer.isEmpty then none
  else
    let bestId := bestLane D (gpsToLocal D gps) D.laneletLayer
    if bestId = InvalId then none else some bestId

/-- The lanelet that `findNearestConnectedLane` selects. -/
def nearestConnectedLane (D : MapData R) (gps : GPSCoordinate R) (referenceId : LaneId)
    (mustBeReachableFromRef : Bool) : Except Fault (Option LaneId) :=
  if D.laneletLayer.isEmpty then .ok none
  else do
    let reference ← getLanelet D referenceId
    let bestId := bestLane D (gpsToLocal D gps) (connectedLanes D reference mustBeReachableFromRef)
    if bestId = InvalId then return none else return some bestId

/-! ### Lookups through the cache -/

/-- The cached entry of the lane, or a new one for the GPS point. -/
def cachedLane (D : MapData R) (id : LaneId) (gps : GPSCoordinate R) (m : LaneletMap R) :
    Except Fault (LaneInfo R × LaneletMap R) := do
  let (info, cache) ← fetch LaneInfo.laneId m.cache id (do
    let ll ← getLanelet D id
    makeLaneInfo D ll gps)
  return (info, { m with cache := cache })

/-- `findNearestLane`. -/
def findNearestLane (D : MapData R) (gps : GPSCoordinate R) (m : LaneletMap R) :
    Except Fault (Option (LaneInfo R) × LaneletMap R) :=
  match nearestLane D gps with
  | none => .ok (none, m)
  | some bestId => do
    let (info, m) ← cachedLane D bestId gps m
    return (some info, m)

/-- `findNearestConnectedLane`. -/
def findNearestConnectedLane (D : MapData R) (gps : GPSCoordinate R) (referenceId : LaneId)
    (mustBeReachableFromRef : Bool) (m : LaneletMap R) : Except Fault (Option (LaneInfo R) × LaneletMap R) := do
  match ← nearestConnectedLane D gps referenceId mustBeReachableFromRef with
  | none => return (none, m)
  | some bestId =>
    let (info, m) ← cachedLane D bestId gps m
    return (some info, m)

/-- The GPS point of the centreline's midpoint, which `getLaneById` projects
    back onto the lane. -/
def midpointGps (D : MapData R) (ll : Lanelet R) : Except Fault (GPSCoordinate R) :=
  match midpoint ll with
  | some mid => .ok (localToGps D mid)
  | none => .error .CenterlineOutOfRange

/-- What `getLaneById` appends to the cache. -/
def makeLaneById (D : MapData R) (laneId : LaneId) : Except Fault (LaneInfo R) := do
  let ll ← getLanelet D laneId
  let midGps ← midpointGps D ll
  makeLaneInfo D ll midGps

/-- `getLaneById`. -/
def getLaneById (D : MapData R) (laneId : LaneId) (m : LaneletMap R) :
    Except Fault (Option (LaneInfo R) × LaneletMap R) :=
  match lookup LaneInfo.laneId m.cache laneId with
  | some cached => .ok (some cached, m)
  | none =>
    if D.laneletLayer.any (fun ll => ll.id = laneId) then do
      let (info, cache) ← fetch LaneInfo.laneId m.cache laneId (makeLaneById D laneId)
      return (some info, { m with cache := cache })
    else .ok (none, m)

/-- `setDefaultStart`. -/
def setDefaultStart (D : MapData R) (name : String) (gps : GPSCoordinate R) (m : LaneletMap R) :
    Except Fault (LaneletMap R) := do
  let (lane, m) ← findNearestLane D gps m
  let pos : FixedStartPosition R :=
    match lane with
    | some lane => ⟨name, gps, lane.localPoint, lane.orientation⟩
    | none => ⟨name, gps, gpsToLocal D gps, ⟨0, 0, 0, 0, 0⟩⟩
  return { m with defaultStart := some pos }

theorem makeLaneInfo_id {D : MapData R} {ll : Lanelet R} {gps : GPSCoordinate R} {info : LaneInfo R}
    (made : makeLaneInfo D ll gps = .ok info) : info.laneId = ll.id := by
  obtain ⟨p, _, built⟩ := bind_ok made
  cases built
  rfl

end

/-! ### A street for worked examples -/

/-- Two lanes heading east, the second after the first, and a crosswalk. -/
def streetLanes : List (Lanelet ℚ) :=
  [⟨101, some "road", [⟨69000, 68800, 40⟩, ⟨69100, 68800, 40⟩]⟩,
   ⟨102, some "road", [⟨69100, 68800, 40⟩, ⟨69200, 68800, 40⟩]⟩,
   ⟨103, some "crosswalk", [⟨69050, 68790, 40⟩, ⟨69050, 68810, 40⟩]⟩]

/-- The street with metres on a plane for the projector. -/
def street : MapData ℚ where
  laneletLayer := streetLanes
  reachableSet ll _ := if ll.id = 101 then streetLanes.take 2 else streetLanes.filter (fun l => l.id = ll.id)
  forward lat lon ele := ⟨(lon - 139) * 100000, (lat - 35) * 100000, ele⟩
  reverse p := ⟨35 + p.y / 100000, 139 + p.x / 100000⟩
  offsetX := 0
  offsetY := 0

/-- The functions of `<cmath>` where the street uses them: roots of squares, and
    the angle of a lane that heads east. -/
@[reducible] def streetMath : CMath ℚ where
  sqrt q := (Nat.sqrt q.num.toNat : ℚ) / (Nat.sqrt q.den : ℚ)
  sin x := if x = 0 then 0 else 1
  cos x := if x = 0 then 1 else 0
  atan2 y _ := y
  pi := 22 / 7

end AutowareAgent.Lanes
