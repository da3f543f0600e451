import AutowareAgent.LaneSearch
import AutowareAgent.Segments
import Mathlib.Analysis.SpecialFunctions.Complex.Arg

/-!
Which lane a point on a plane of real numbers is snapped to, and where on it. The
lane is the one with the nearest representative point; the point on it is the
nearest point of its centreline. The two notions of distance may disagree: the
centreline of another lane may be nearer.
-/
namespace AutowareAgent.Snapping
open AutowareAgent.Lanes AutowareAgent.LaneCache AutowareAgent.Minimum AutowareAgent.LaneSearch AutowareAgent.Segments

/-- The functions of `<cmath>` on exact numbers. -/
@[reducible] noncomputable def realMath : CMath ℝ where
  sqrt := Real.sqrt
  sin := Real.sin
  cos := Real.cos
  atan2 y x := Complex.arg ⟨x, y⟩
  pi := Real.pi

section
attribute [local instance] realMath

/-- The place of a point in the plane. -/
def plane (p : LocalCoordinate ℝ) : ℝ × ℝ := (p.x, p.y)

/-- The centreline as a chain of segments. -/
def chain (ll : Lanelet ℝ) : List (ℝ × ℝ) := ll.centerline.map plane

/-- The distance from a point to a place. -/
noncomputable def distanceTo (target : LocalCoordinate ℝ) (r : ℝ × ℝ) : ℝ :=
  planeDistance (target.x - r.1) (target.y - r.2)

/-- The distance from a point to the representative point of a lanelet, both in
    the frame of the map. It is of no use where the centreline is empty. -/
noncomputable def frameDistance (target : LocalCoordinate ℝ) (ll : Lanelet ℝ) : ℝ :=
  match Lanes.midpoint ll with
  | none => 0
  | some mid => distanceTo target (plane mid)

theorem distanceTo_le {target target' : LocalCoordinate ℝ} {r r' : ℝ × ℝ} :
    distanceTo target r ≤ distanceTo target' r' ↔ sqDist (plane target) r ≤ sqDist (plane target') r' := by
  have same : ∀ (p : LocalCoordinate ℝ) (q : ℝ × ℝ), distanceTo p q = Real.sqrt (sqDist (plane p) q) := by
    intro p q
    simp only [distanceTo, planeDistance, sqDist, plane, sq]
    rfl
  rw [same, same]
  exact Real.sqrt_le_sqrt_iff (sqDist_nonneg _ _)

/-! ### The point on the lane -/

theorem clamp_eq (v : ℝ) : clamp v 0 ((1 : Nat) : ℝ) = max 0 (min v 1) := by
  unfold clamp
  rw [Nat.cast_one]
  split
  · rename_i below
    rw [min_eq_left (below.le.trans zero_le_one), max_eq_left below.le]
  · rename_i above
    split
    · rename_i beyond
      rw [min_eq_right beyond.le, max_eq_right zero_le_one]
    · rename_i inside
      rw [min_eq_left (not_lt.mp inside), max_eq_right (not_lt.mp above)]

/-- What is computed for a segment is its nearest point. -/
theorem segmentPoint_plane (target p0 p1 : LocalCoordinate ℝ) :
    plane (segmentPoint target p0 p1) = nearest (plane target) (plane p0) (plane p1) := by
  simp only [segmentPoint, clamp_eq, nearest, nearestAt, forth, sqDist, along, plane, sq]

/-- The segments of the centreline. -/
def segmentsOf (ll : Lanelet ℝ) : List (LocalCoordinate ℝ × LocalCoordinate ℝ) := ll.centerline.zip ll.centerline.tail

/-- The distance from a point to a segment. -/
noncomputable def segmentDistance (target : LocalCoordinate ℝ) (s : LocalCoordinate ℝ × LocalCoordinate ℝ) : ℝ :=
  distanceTo target (nearest (plane target) (plane s.1) (plane s.2))

/-- What the loop stores of the nearest segment. -/
noncomputable def closest (target : LocalCoordinate ℝ) :
    Option (LocalCoordinate ℝ × LocalCoordinate ℝ) → Option (ℝ × LocalCoordinate ℝ)
  | none => none
  | some s => some (distanceTo target (plane (segmentPoint target s.1 s.2)), segmentPoint target s.1 s.2)

/-- The loop looks for the segment with the least distance. -/
theorem closerPoint_argmin (target : LocalCoordinate ℝ) (segments : List (LocalCoordinate ℝ × LocalCoordinate ℝ)) :
    segments.foldl (closerPoint target) none = closest target (segments.argmin (segmentDistance target)) := by
  have own : segmentDistance target = fun s => distanceTo target (plane (segmentPoint target s.1 s.2)) := by
    funext s
    rw [segmentPoint_plane, segmentDistance]
  rw [own]
  refine foldl_argmin (closest target) (fun s => ?_) (fun b s => ?_) segments
  · simp [closerPoint, closest, below, distanceTo, plane]
  · simp only [closerPoint, closest, below, distanceTo, plane, Option.map_some, decide_eq_true_eq]
    exact ite_congr rfl (fun _ => rfl) (fun _ => rfl)

/-- The projection onto a lane is what is computed for the first nearest segment
    of its centreline, and nothing where there is none. -/
theorem projected_first {D : MapData ℝ} {id : LaneId} {ll : Lanelet ℝ} (found : getLanelet D id = .ok ll)
    (gps : GPSCoordinate ℝ) :
    (segmentsOf ll = [] ∧ projectOntoLaneCenterline D gps id = .error .UnassignedPoint) ∨
    ∃ s, FirstLeast (segmentDistance (gpsToLocal D gps)) (segmentsOf ll) s ∧
      projectOntoLaneCenterline D gps id = .ok (segmentPoint (gpsToLocal D gps) s.1 s.2) := by
  unfold projectOntoLaneCenterline
  rw [found]
  simp only [bind, Except.bind, closerPoint_argmin]
  cases least : (ll.centerline.zip ll.centerline.tail).argmin (segmentDistance (gpsToLocal D gps)) with
  | none => exact .inl ⟨List.argmin_eq_none.mp least, rfl⟩
  | some s => exact .inr ⟨s, argmin_first.mp least, rfl⟩

theorem onChain_segments {ll : Lanelet ℝ} {r : ℝ × ℝ} :
    OnChain (chain ll) r ↔ ∃ s ∈ segmentsOf ll, OnSegment (plane s.1) (plane s.2) r := by
  have pairs : (chain ll).zip (chain ll).tail = (segmentsOf ll).map (Prod.map plane plane) := by
    rw [chain, ← List.map_tail, List.zip_map, segmentsOf]
  unfold OnChain
  rw [pairs]
  constructor
  · rintro ⟨_, member, between⟩
    obtain ⟨s, inside, rfl⟩ := List.mem_map.mp member
    exact ⟨s, inside, between⟩
  · rintro ⟨s, inside, between⟩
    exact ⟨_, List.mem_map_of_mem inside, between⟩

/-- No point of a segment is nearer than its distance tells. -/
theorem segmentDistance_le {target : LocalCoordinate ℝ} {s : LocalCoordinate ℝ × LocalCoordinate ℝ} {r : ℝ × ℝ}
    (between : OnSegment (plane s.1) (plane s.2) r) : segmentDistance target s ≤ distanceTo target r := by
  rw [segmentDistance, distanceTo_le]
  exact nearest_le between

/-- The projection onto a lane is the point of its centreline that is nearest in the plane. -/
theorem projected_nearest {D : MapData ℝ} {gps : GPSCoordinate ℝ} {ll : Lanelet ℝ} {p : LocalCoordinate ℝ}
    (found : getLanelet D ll.id = .ok ll) (projected : projectOntoLaneCenterline D gps ll.id = .ok p) :
    OnChain (chain ll) (plane p) ∧
      ∀ r, OnChain (chain ll) r → distanceTo (gpsToLocal D gps) (plane p) ≤ distanceTo (gpsToLocal D gps) r := by
  rcases projected_first found gps with ⟨_, failed⟩ | ⟨s, first, computed⟩
  · cases failed.symm.trans projected
  · cases computed.symm.trans projected
    rw [segmentPoint_plane]
    constructor
    · exact onChain_segments.mpr ⟨s, first.mem, nearest_onSegment _ _ _⟩
    · intro r on
      obtain ⟨s', member, between⟩ := onChain_segments.mp on
      exact (first.le member).trans (segmentDistance_le between)

/-! ### The lane -/

section
variable {D : MapData ℝ} {gps : GPSCoordinate ℝ} {info : LaneInfo ℝ} {m : LaneletMap ℝ}

/-- Without an offset the search compares distances in the frame of the map. -/
theorem searchDistance_unshifted (unshifted : D.offsetX = 0 ∧ D.offsetY = 0) (target : LocalCoordinate ℝ)
    (ll : Lanelet ℝ) : searchDistance D target ll = frameDistance target ll := by
  unfold searchDistance frameDistance
  cases Lanes.midpoint ll with
  | none => rfl
  | some mid =>
    simp only [unshifted.1, unshifted.2, zero_add, distanceTo, planeDistance, plane]
    congr 1
    ring

/-- What a search over an empty cache returns was selected, and made for the point. -/
theorem found_afresh (indexed : Indexed D) (found : findNearestLane D gps .fresh = .ok (some info, m)) :
    ∃ ll p, FirstNearest D (gpsToLocal D gps) D.laneletLayer ll ∧ getLanelet D ll.id = .ok ll ∧
      projectOntoLaneCenterline D gps ll.id = .ok p ∧ info = laneInfoAt D ll p := by
  have answered : answer D .fresh (.Nearest gps) = .ok (some info) := by
    rw [answer, found]
    rfl
  obtain ⟨ll, first, own⟩ := (nearest_finds (m := .fresh) indexed gps).lane info answered
  have held := getLanelet_of_mem indexed (firstNearest_searchable first).1
  have selected : selects D (.Nearest gps) = .ok (some ll.id) := own ▸ selects_of_answer answered
  rw [answer_fresh D _ selected, laneAt_eq held] at answered
  obtain ⟨made, built, rest⟩ := map_ok answered
  obtain ⟨p, projected, placed⟩ := map_ok built
  cases rest
  exact ⟨ll, p, first, held, projected, placed⟩

/-- A lane was returned for a lanelet: it is drivable, no other representative point
    is nearer, and the point on it is the nearest one of its centreline. -/
structure SnapsTo (D : MapData ℝ) (gps : GPSCoordinate ℝ) (info : LaneInfo ℝ) (ll : Lanelet ℝ) : Prop where
  lane : info.laneId = ll.id
  drives : drivable ll = true
  representative : ∀ other ∈ D.laneletLayer, drivable other = true → other.centerline ≠ [] →
    frameDistance (gpsToLocal D gps) ll ≤ frameDistance (gpsToLocal D gps) other
  on : OnChain (chain ll) (plane info.localPoint)
  nearest : ∀ r, OnChain (chain ll) r →
    distanceTo (gpsToLocal D gps) (plane info.localPoint) ≤ distanceTo (gpsToLocal D gps) r

/-- Without an offset, and with nothing cached, a point is snapped to the centreline
    of the lanelet whose representative point is nearest. -/
theorem nearest_snaps (indexed : Indexed D) (unshifted : D.offsetX = 0 ∧ D.offsetY = 0)
    (found : findNearestLane D gps .fresh = .ok (some info, m)) : ∃ ll ∈ D.laneletLayer, SnapsTo D gps info ll := by
  obtain ⟨ll, p, first, held, projected, rfl⟩ := found_afresh indexed found
  obtain ⟨member, kept⟩ := firstNearest_searchable first
  obtain ⟨on, least⟩ := projected_nearest held projected
  refine ⟨ll, member, rfl, (Bool.and_eq_true_iff.mp kept).1, ?_, on, least⟩
  intro other inside drives filled
  have nearer := first.le (List.mem_filter.mpr ⟨inside, by simpa [searchable, drives] using filled⟩)
  rwa [searchDistance_unshifted unshifted, searchDistance_unshifted unshifted] at nearer

/-- A point is projected onto every lane with a segment. -/
theorem projected_of_long (indexed : Indexed D) {ll : Lanelet ℝ} (member : ll ∈ D.laneletLayer)
    (long : 2 ≤ ll.centerline.length) (gps : GPSCoordinate ℝ) :
    ∃ p, projectOntoLaneCenterline D gps ll.id = .ok p := by
  rcases projected_cases (getLanelet_of_mem indexed member) gps with ⟨short, _⟩ | ⟨_, best, _, projected⟩
  · omega
  · exact ⟨best.2, projected⟩

/-- A search over an empty cache returns a lane, where one is not skipped and all have a segment. -/
theorem lane_found (indexed : Indexed D) (gps : GPSCoordinate ℝ) (some : ∃ ll ∈ D.laneletLayer, searchable ll = true)
    (long : ∀ ll ∈ D.laneletLayer, 2 ≤ ll.centerline.length) :
    ∃ info m, findNearestLane D gps .fresh = .ok (.some info, m) := by
  have finds := nearest_finds (m := .fresh) indexed gps
  cases answered : findNearestLane D gps .fresh with
  | error fault =>
    obtain ⟨_, ll, first, short, _⟩ := finds.fault fault (by rw [answer, answered]; rfl)
    have segment := long ll (firstNearest_searchable first).1
    omega
  | ok r =>
    obtain ⟨lane, m⟩ := r
    cases lane with
    | none =>
      obtain ⟨ll, member, kept⟩ := some
      have skipped := finds.nothing.mp (by rw [answer, answered]; rfl) ll member
      rw [kept] at skipped
      cases skipped
    | some info => exact ⟨info, m, rfl⟩

end

/-! ### An avenue for worked examples -/

noncomputable def longLane : Lanelet ℝ :=
  ⟨201, some "road", [⟨69000, 68800, 40⟩, ⟨69100, 68800, 40⟩, ⟨69200, 68800, 40⟩]⟩

noncomputable def shortLane : Lanelet ℝ :=
  ⟨202, some "road", [⟨69000, 68830, 40⟩, ⟨69010, 68830, 40⟩, ⟨69020, 68830, 40⟩]⟩

/-- A lane that climbs. -/
noncomputable def ramp : Lanelet ℝ := ⟨203, some "road", [⟨69000, 68800, 40⟩, ⟨69100, 68800, 50⟩]⟩

/-- Two lanes side by side. -/
noncomputable def avenueLanes : List (Lanelet ℝ) := [longLane, shortLane]

/-- The avenue with metres on a plane for the projector. No lane leads to the other. -/
noncomputable def avenue (offsetX : ℝ) : MapData ℝ where
  laneletLayer := avenueLanes
  reachableSet ll _ := [ll]
  forward lat lon ele := ⟨(lon - 139) * 100000, (lat - 35) * 100000, ele⟩
  reverse p := ⟨35 + p.y / 100000, 139 + p.x / 100000⟩
  offsetX := offsetX
  offsetY := 0

theorem avenue_indexed (offsetX : ℝ) : Indexed (avenue offsetX) where
  ids := by simp [avenue, avenueLanes, longLane, shortLane]
  valid := by simp [avenue, avenueLanes, longLane, shortLane, InvalId]
  reached := by
    intro ll member dist reached inside
    rw [List.mem_singleton.mp inside]
    exact member

theorem avenue_found (offsetX : ℝ) (gps : GPSCoordinate ℝ) :
    ∃ info m, findNearestLane (avenue offsetX) gps .fresh = .ok (some info, m) := by
  refine lane_found (avenue_indexed offsetX) gps ⟨longLane, List.mem_cons_self, ?_⟩ ?_
  · simp [searchable, drivable, longLane]
  · simp [avenue, avenueLanes, longLane, shortLane]

theorem avenue_local (offsetX x y : ℝ) :
    gpsToLocal (avenue offsetX) (localToGps (avenue offsetX) ⟨x, y, 0⟩) = ⟨x, y, 0⟩ := by
  simp only [gpsToLocal, localToGps, avenue]
  congr 1 <;> ring

/-- Near the beginning of the long lane. -/
noncomputable def onAvenue : GPSCoordinate ℝ := localToGps (avenue 0) ⟨69005, 68800, 0⟩

/-- The point on the avenue is snapped to some lane. -/
theorem nearest_snaps_on_avenue : ∃ info m, findNearestLane (avenue 0) onAvenue .fresh = .ok (some info, m) ∧
    ∃ ll ∈ (avenue 0).laneletLayer, SnapsTo (avenue 0) onAvenue info ll := by
  obtain ⟨info, m, found⟩ := avenue_found 0 onAvenue
  exact ⟨info, m, found, nearest_snaps (avenue_indexed 0) ⟨rfl, rfl⟩ found⟩

theorem on_longLane : OnChain (chain longLane) (69005, 68800) :=
  ⟨((69000, 68800), (69100, 68800)), by simp [chain, plane, longLane], 1 / 20, by norm_num, by norm_num,
    by norm_num [along]⟩

theorem on_shortLane {r : ℝ × ℝ} (on : OnChain (chain shortLane) r) : r.2 = 68830 := by
  obtain ⟨s, member, t, _, _, rfl⟩ := on
  simp only [chain, shortLane, plane, List.map_cons, List.map_nil, List.tail_cons, List.zip_cons_cons,
    List.zip_nil_right, List.mem_cons, List.not_mem_nil, or_false] at member
  rcases member with rfl | rfl <;> simp [along]

/-- The point is on the long lane, but it is snapped to the short one beside it,
    whose representative point is nearer. -/
theorem snapped_beside : ∃ info m, findNearestLane (avenue 0) onAvenue .fresh = .ok (some info, m) ∧
    ∃ other ∈ avenueLanes, other.id ≠ info.laneId ∧ drivable other = true ∧ 2 ≤ other.centerline.length ∧
      ∃ p, projectOntoLaneCenterline (avenue 0) onAvenue other.id = .ok p ∧
        distanceTo (gpsToLocal (avenue 0) onAvenue) (plane p) <
          distanceTo (gpsToLocal (avenue 0) onAvenue) (plane info.localPoint) := by
  obtain ⟨info, m, found⟩ := avenue_found 0 onAvenue
  obtain ⟨ll, p, first, held, projected, rfl⟩ := found_afresh (avenue_indexed 0) found
  have target : gpsToLocal (avenue 0) onAvenue = ⟨69005, 68800, 0⟩ := avenue_local 0 69005 68800
  have lanes : ll ∈ avenueLanes := (firstNearest_searchable first).1
  rcases List.mem_cons.mp lanes with rfl | short
  · -- the representative point of the long lane is farther
    have nearer := first.le (b := shortLane) (by simp [avenue, avenueLanes, shortLane, searchable, drivable])
    rw [searchDistance_unshifted ⟨rfl, rfl⟩, searchDistance_unshifted ⟨rfl, rfl⟩, target] at nearer
    simp only [frameDistance, Lanes.midpoint, longLane, shortLane, List.length_cons, List.length_nil] at nearer
    norm_num [distanceTo_le, sqDist, plane] at nearer
  · cases List.mem_singleton.mp short
    have inside : longLane ∈ (avenue 0).laneletLayer := List.mem_cons_self
    obtain ⟨p', projected'⟩ := projected_of_long (avenue_indexed 0) inside (by simp [longLane]) onAvenue
    refine ⟨_, m, found, longLane, inside, by simp [laneInfoAt, longLane, shortLane], by simp [drivable, longLane],
      by simp [longLane], p', projected', ?_⟩
    obtain ⟨_, least⟩ := projected_nearest (getLanelet_of_mem (avenue_indexed 0) inside) projected'
    have beside : (plane p).2 = 68830 := on_shortLane (projected_nearest held projected).1
    refine lt_of_not_ge fun nearer => ?_
    have onIt := nearer.trans (least _ on_longLane)
    rw [target, distanceTo_le] at onIt
    change sqDist (69005, 68800) (plane p) ≤ sqDist (69005, 68800) (69005, 68800) at onIt
    simp only [sqDist, beside] at onIt
    nlinarith [sq_nonneg (69005 - (plane p).1)]

end
end AutowareAgent.Snapping
