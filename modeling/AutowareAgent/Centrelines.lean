import AutowareAgent.Snapping

/-!
The point of a centreline that is computed for a position. In the plane it is
the nearest point, of the first of the nearest segments. Its height is that of
the segment's first point, so that in space it may be off the centreline where
the segment slopes.
-/
namespace AutowareAgent.Centrelines
open AutowareAgent.Lanes AutowareAgent.Minimum AutowareAgent.LaneSearch AutowareAgent.Segments AutowareAgent.Snapping

section
attribute [local instance] realMath

/-- The parts of a centreline around its first nearest segment. -/
structure FirstNearestSegment (target : LocalCoordinate ℝ) (ll : Lanelet ℝ)
    (before : List (LocalCoordinate ℝ × LocalCoordinate ℝ)) (s : LocalCoordinate ℝ × LocalCoordinate ℝ)
    (after : List (LocalCoordinate ℝ × LocalCoordinate ℝ)) : Prop where
  split : segmentsOf ll = before ++ s :: after
  farther : ∀ s' ∈ before, segmentDistance target s < segmentDistance target s'
  least : ∀ s' ∈ after, segmentDistance target s ≤ segmentDistance target s'

/-- The point between two points in space. -/
def spaceAlong (p q : LocalCoordinate ℝ) (t : ℝ) : LocalCoordinate ℝ :=
  ⟨p.x + t * (q.x - p.x), p.y + t * (q.y - p.y), p.z + t * (q.z - p.z)⟩

/-- The third point is between the first two in space. -/
def InSegment (p q r : LocalCoordinate ℝ) : Prop := ∃ t, 0 ≤ t ∧ t ≤ 1 ∧ r = spaceAlong p q t

/-- The point is on the centreline in space. -/
def InCentreline (ll : Lanelet ℝ) (r : LocalCoordinate ℝ) : Prop := ∃ s ∈ segmentsOf ll, InSegment s.1 s.2 r

/-- The point of the segment that is nearest in the plane, at the height of the segment's first point. -/
noncomputable def footprint (target : LocalCoordinate ℝ) (s : LocalCoordinate ℝ × LocalCoordinate ℝ) :
    LocalCoordinate ℝ :=
  ⟨(nearest (plane target) (plane s.1) (plane s.2)).1, (nearest (plane target) (plane s.1) (plane s.2)).2, s.1.z⟩

/-- The first nearest segment is level, or is nearest at its first point, or a later
    segment passes where it is nearest, at the height of its first point. -/
def Level (target : LocalCoordinate ℝ) (ll : Lanelet ℝ) : Prop :=
  ∃ before s after, FirstNearestSegment target ll before s after ∧
    (s.1.z = s.2.z ∨ nearestAt (plane target) (plane s.1) (plane s.2) = 0 ∨
      ∃ s' ∈ after, InSegment s'.1 s'.2 (footprint target s))

theorem segmentPoint_footprint (target : LocalCoordinate ℝ) (s : LocalCoordinate ℝ × LocalCoordinate ℝ) :
    segmentPoint target s.1 s.2 = footprint target s := by
  have flat := segmentPoint_plane target s.1 s.2
  simp only [plane, Prod.ext_iff] at flat
  obtain ⟨x, y⟩ := flat
  simp only [footprint, plane, ← x, ← y]
  rfl

/-- A centreline with two points has a first nearest segment, and its point is computed. -/
theorem projected_split {D : MapData ℝ} {id : LaneId} {ll : Lanelet ℝ} (held : getLanelet D id = .ok ll)
    (long : 2 ≤ ll.centerline.length) (gps : GPSCoordinate ℝ) :
    ∃ before s after, FirstNearestSegment (gpsToLocal D gps) ll before s after ∧
      projectOntoLaneCenterline D gps id = .ok (footprint (gpsToLocal D gps) s) := by
  rcases projected_first held gps with ⟨none, _⟩ | ⟨s, ⟨before, after, split, farther, least⟩, computed⟩
  · have segments := congrArg List.length none
    simp only [segmentsOf, List.length_zip, List.length_tail, List.length_nil] at segments
    omega
  · rw [segmentPoint_footprint] at computed
    exact ⟨before, s, after, ⟨split, farther, least⟩, computed⟩

section
variable {target : LocalCoordinate ℝ} {ll : Lanelet ℝ} {before after : List (LocalCoordinate ℝ × LocalCoordinate ℝ)}
variable {s : LocalCoordinate ℝ × LocalCoordinate ℝ}

theorem FirstNearestSegment.first (nearest : FirstNearestSegment target ll before s after) :
    FirstLeast (segmentDistance target) (segmentsOf ll) s :=
  ⟨before, after, nearest.split, nearest.farther, nearest.least⟩

/-- A point on a segment in space is on it in the plane. -/
theorem InSegment.plane {p q r : LocalCoordinate ℝ} (between : InSegment p q r) :
    OnSegment (Snapping.plane p) (Snapping.plane q) (Snapping.plane r) := by
  obtain ⟨t, low, high, rfl⟩ := between
  exact ⟨t, low, high, rfl⟩

/-- The point that is computed is on its segment in space where the segment is level
    or its first point is nearest, and nowhere else. -/
theorem footprint_inSegment : InSegment s.1 s.2 (footprint target s) ↔
    s.1.z = s.2.z ∨ nearestAt (plane target) (plane s.1) (plane s.2) = 0 := by
  constructor
  · rintro ⟨t, _, _, same⟩
    simp only [footprint, spaceAlong, LocalCoordinate.mk.injEq] at same
    obtain ⟨x, y, z⟩ := same
    by_cases length : 0 < sqDist (plane s.2) (plane s.1)
    · -- the parameter is that of the nearest point
      have own : along (plane s.1) (plane s.2) (nearestAt (plane target) (plane s.1) (plane s.2)) =
          along (plane s.1) (plane s.2) t := Prod.ext x y
      rw [along_injective length own]
      have still : t * (s.2.z - s.1.z) = 0 := by linarith
      rcases mul_eq_zero.mp still with start | level
      · exact .inr start
      · exact .inl (by linarith)
    · exact .inr (by rw [nearestAt, if_neg length])
  · intro kept
    obtain ⟨low, high⟩ := nearestAt_mem (plane target) (plane s.1) (plane s.2)
    have still : nearestAt (plane target) (plane s.1) (plane s.2) * (s.2.z - s.1.z) = 0 := by
      rcases kept with level | start
      · rw [level, sub_self, mul_zero]
      · rw [start, zero_mul]
    refine ⟨_, low, high, ?_⟩
    rw [spaceAlong, still, add_zero]
    rfl

/-- The segments before the first nearest one do not pass where it is nearest. -/
theorem footprint_before (nearest : FirstNearestSegment target ll before s after)
    {s' : LocalCoordinate ℝ × LocalCoordinate ℝ} (member : s' ∈ before) :
    ¬ InSegment s'.1 s'.2 (footprint target s) := by
  intro between
  have nearer : segmentDistance target s' ≤ segmentDistance target s := segmentDistance_le between.plane
  exact absurd (nearest.farther s' member) (not_lt.mpr nearer)

/-- The point that is computed is on the centreline in space exactly where its height is. -/
theorem footprint_inCentreline (nearest : FirstNearestSegment target ll before s after) :
    InCentreline ll (footprint target s) ↔ Level target ll := by
  constructor
  · rintro ⟨s', member, between⟩
    refine ⟨before, s, after, nearest, ?_⟩
    rw [nearest.split] at member
    rcases List.mem_append.mp member with earlier | later
    · exact absurd between (footprint_before nearest earlier)
    · rcases List.mem_cons.mp later with rfl | inside
      · exact (footprint_inSegment.mp between).imp_right .inl
      · exact .inr (.inr ⟨s', inside, between⟩)
  · rintro ⟨before', s₁, after', nearest', kept⟩
    obtain rfl : s = s₁ := nearest.first.unique nearest'.first
    rcases kept with level | start | ⟨s', member, between⟩
    · exact ⟨s, nearest.first.mem, footprint_inSegment.mpr (.inl level)⟩
    · exact ⟨s, nearest.first.mem, footprint_inSegment.mpr (.inr start)⟩
    · refine ⟨s', ?_, between⟩
      rw [nearest'.split]
      exact List.mem_append_right _ (List.mem_cons_of_mem _ member)

end

/-- The point that is computed is on the centreline in the plane, no point of the
    centreline is nearer, and every point of the segments before its own is farther. -/
theorem projected_is_nearest {D : MapData ℝ} {id : LaneId} {ll : Lanelet ℝ} (held : getLanelet D id = .ok ll)
    (long : 2 ≤ ll.centerline.length) (gps : GPSCoordinate ℝ) :
    ∃ p, projectOntoLaneCenterline D gps id = .ok p ∧
      (∀ s ∈ segmentsOf ll, ∀ r, OnSegment (plane s.1) (plane s.2) r →
        distanceTo (gpsToLocal D gps) (plane p) ≤ distanceTo (gpsToLocal D gps) r) ∧
      ∃ before s after, segmentsOf ll = before ++ s :: after ∧ OnSegment (plane s.1) (plane s.2) (plane p) ∧
        ∀ s' ∈ before, ∀ r, OnSegment (plane s'.1) (plane s'.2) r →
          distanceTo (gpsToLocal D gps) (plane p) < distanceTo (gpsToLocal D gps) r := by
  obtain ⟨before, s, after, nearest, computed⟩ := projected_split held long gps
  refine ⟨_, computed, ?_, before, s, after, nearest.split, nearest_onSegment _ _ _, ?_⟩
  · intro s' member r between
    exact (nearest.first.le member).trans (segmentDistance_le between)
  · intro s' member r between
    exact (nearest.farther s' member).trans_le (segmentDistance_le between)

/-- The nearest point of the long lane of the avenue. -/
theorem projected_is_nearest_on_avenue : ∃ p, projectOntoLaneCenterline (avenue 0) onAvenue longLane.id = .ok p ∧
    (∀ s ∈ segmentsOf longLane, ∀ r, OnSegment (plane s.1) (plane s.2) r →
      distanceTo (gpsToLocal (avenue 0) onAvenue) (plane p) ≤ distanceTo (gpsToLocal (avenue 0) onAvenue) r) ∧
    ∃ before s after, segmentsOf longLane = before ++ s :: after ∧ OnSegment (plane s.1) (plane s.2) (plane p) ∧
      ∀ s' ∈ before, ∀ r, OnSegment (plane s'.1) (plane s'.2) r →
        distanceTo (gpsToLocal (avenue 0) onAvenue) (plane p) < distanceTo (gpsToLocal (avenue 0) onAvenue) r :=
  projected_is_nearest (getLanelet_of_mem (avenue_indexed 0) List.mem_cons_self) (by simp [longLane]) onAvenue

/-- The point that is computed is on the centreline in space exactly where the first
    nearest segment keeps the height. -/
theorem in_centreline_iff {D : MapData ℝ} {id : LaneId} {ll : Lanelet ℝ} (held : getLanelet D id = .ok ll)
    (long : 2 ≤ ll.centerline.length) (gps : GPSCoordinate ℝ) :
    ∃ p, projectOntoLaneCenterline D gps id = .ok p ∧ (InCentreline ll p ↔ Level (gpsToLocal D gps) ll) := by
  obtain ⟨before, s, after, nearest, computed⟩ := projected_split held long gps
  exact ⟨_, computed, footprint_inCentreline nearest⟩

/-- The long lane of the avenue is level: the point that is computed is on it. -/
theorem in_centreline_on_avenue : ∃ p, projectOntoLaneCenterline (avenue 0) onAvenue longLane.id = .ok p ∧
    InCentreline longLane p := by
  have held : getLanelet (avenue 0) longLane.id = .ok longLane :=
    getLanelet_of_mem (avenue_indexed 0) List.mem_cons_self
  have long : 2 ≤ longLane.centerline.length := by simp [longLane]
  obtain ⟨p, computed, iff⟩ := in_centreline_iff held long onAvenue
  obtain ⟨before, s, after, nearest, _⟩ := projected_split held long onAvenue
  refine ⟨p, computed, iff.mpr ⟨before, s, after, nearest, .inl ?_⟩⟩
  have member := nearest.first.mem
  simp only [segmentsOf, longLane, List.tail_cons, List.zip_cons_cons, List.zip_nil_right, List.mem_cons,
    List.not_mem_nil, or_false] at member
  rcases member with rfl | rfl <;> rfl

/-- The avenue with the ramp for its only lane. -/
noncomputable def hill : MapData ℝ := { avenue 0 with laneletLayer := [ramp] }

/-- The point that is computed beside the middle of the ramp is below it. -/
theorem below_ramp : ∃ p, projectOntoLaneCenterline hill (localToGps hill ⟨69050, 68810, 0⟩) 203 = .ok p ∧
    ¬ InCentreline ramp p := by
  have held : getLanelet hill 203 = .ok ramp := by simp [getLanelet, hill, ramp]
  obtain ⟨before, s, after, nearest, computed⟩ :=
    projected_split held (by simp [ramp]) (localToGps hill ⟨69050, 68810, 0⟩)
  refine ⟨_, computed, ?_⟩
  have target : gpsToLocal hill (localToGps hill ⟨69050, 68810, 0⟩) = ⟨69050, 68810, 0⟩ := avenue_local 0 69050 68810
  have only : segmentsOf ramp = [(⟨69000, 68800, 40⟩, ⟨69100, 68800, 50⟩)] := rfl
  have own := nearest.first.mem
  rw [only, List.mem_singleton] at own
  subst own
  rintro ⟨s', member, between⟩
  rw [only, List.mem_singleton] at member
  subst member
  rw [target] at between
  rcases footprint_inSegment.mp between with level | start
  · norm_num at level
  · norm_num [nearestAt, forth, sqDist, plane] at start

/-! ### Positions that were snapped -/

/-- On a segment the nearest point is the target itself. -/
theorem nearest_self {target : LocalCoordinate ℝ} {s : LocalCoordinate ℝ × LocalCoordinate ℝ}
    (on : OnSegment (plane s.1) (plane s.2) (plane target)) :
    nearest (plane target) (plane s.1) (plane s.2) = plane target := by
  have zero : sqDist (plane target) (nearest (plane target) (plane s.1) (plane s.2)) ≤
      sqDist (plane target) (plane target) := nearest_le on
  rw [sqDist_self] at zero
  exact (eq_of_sqDist zero).symm

/-- A point that was computed for a lane is computed again for every position at its place. -/
theorem projected_again {D : MapData ℝ} {id : LaneId} {gps gps' : GPSCoordinate ℝ} {p : LocalCoordinate ℝ}
    (computed : projectOntoLaneCenterline D gps id = .ok p) (there : plane (gpsToLocal D gps') = plane p) :
    projectOntoLaneCenterline D gps' id = .ok p := by
  obtain ⟨ll, held, _⟩ := bind_ok computed
  rcases projected_first held gps with ⟨_, failed⟩ | ⟨s, ⟨before, after, split, farther, least⟩, own⟩
  · cases failed.symm.trans computed
  cases own.symm.trans computed
  rw [segmentPoint_plane] at there
  have on : OnSegment (plane s.1) (plane s.2) (plane (gpsToLocal D gps')) := by
    rw [there]
    exact nearest_onSegment _ _ _
  -- no earlier segment passes there, it would have been nearer
  have first : FirstLeast (segmentDistance (gpsToLocal D gps')) (segmentsOf ll) s := by
    refine ⟨before, after, split, fun s' earlier => ?_, fun s' _ => ?_⟩
    · refine lt_of_not_ge fun nearer => absurd (farther s' earlier) (not_lt.mpr ?_)
      have meets : plane (gpsToLocal D gps') = nearest (plane (gpsToLocal D gps')) (plane s'.1) (plane s'.2) := by
        rw [segmentDistance, segmentDistance, distanceTo_le, nearest_self on, sqDist_self] at nearer
        exact eq_of_sqDist nearer
      have passes : OnSegment (plane s'.1) (plane s'.2) (plane (gpsToLocal D gps')) := by
        rw [meets]
        exact nearest_onSegment _ _ _
      rw [there] at passes
      exact segmentDistance_le passes
    · rw [segmentDistance, segmentDistance, distanceTo_le, nearest_self on, sqDist_self]
      exact sqDist_nonneg _ _
  rcases projected_first held gps' with ⟨none, _⟩ | ⟨s', first', own'⟩
  · rw [none] at split
    simp at split
  · obtain rfl := first.unique first'
    rw [own', segmentPoint_footprint, segmentPoint_footprint, footprint, footprint, nearest_self on, there]

/-- The point on the avenue, and the place to which it was snapped. -/
theorem projected_again_on_avenue : ∃ p, projectOntoLaneCenterline (avenue 0) onAvenue shortLane.id = .ok p ∧
    projectOntoLaneCenterline (avenue 0) (localToGps (avenue 0) ⟨p.x, p.y, 0⟩) shortLane.id = .ok p := by
  have held : getLanelet (avenue 0) shortLane.id = .ok shortLane :=
    getLanelet_of_mem (avenue_indexed 0) (by simp [avenue, avenueLanes])
  obtain ⟨_, s, _, _, computed⟩ := projected_split held (by simp [shortLane]) onAvenue
  refine ⟨_, computed, projected_again computed ?_⟩
  rw [avenue_local]
  rfl

end
end AutowareAgent.Centrelines
