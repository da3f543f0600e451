import AutowareAgent.Envelopes
import AutowareAgent.Snapping

/-!
The configured offset. The searches add it to the representative points before
they compare them with a point that does not have it, so they look from a point
that lies off by the offset. Whether that matters depends on the map: it does not
where the offset is perpendicular to the way between any two representative points.
-/
namespace AutowareAgent.Offsets
open AutowareAgent.Lanes AutowareAgent.LaneCache AutowareAgent.Minimum AutowareAgent.LaneSearch AutowareAgent.Segments
open AutowareAgent.Envelopes AutowareAgent.Snapping

section
attribute [local instance] realMath

/-- The projector's functions are inverse to each other, in the plane. -/
def Inverse (D : MapData ℝ) : Prop := ∀ p, plane (gpsToLocal D (localToGps D p)) = plane p

/-- The candidates of a search. -/
def candidates (D : MapData ℝ) : Query ℝ → List (Lanelet ℝ)
  | .Nearest _ => D.laneletLayer
  | .Connected _ ref b =>
    match getLanelet D ref with
    | .ok reference => connectedLanes D reference b
    | .error _ => []

/-- No candidate's representative point is nearer, in the frame of the map. -/
def NearestInFrame (D : MapData ℝ) (q : Query ℝ) (ll : Lanelet ℝ) : Prop :=
  ll ∈ (candidates D q).filter searchable ∧ ∀ other ∈ (candidates D q).filter searchable,
    frameDistance (gpsToLocal D q.gps) ll ≤ frameDistance (gpsToLocal D q.gps) other

/-- All lookups use one frame: a search selects a lanelet with a nearest representative
    point, and one with the representative point where it is asked about one. -/
structure OneFrame (D : MapData ℝ) : Prop where
  nearest : ∀ q id, selects D q = .ok (some id) → ∃ ll, ll.id = id ∧ NearestInFrame D q ll
  own : ∀ ll ∈ D.laneletLayer.filter searchable, ∀ mid, Lanes.midpoint ll = some mid →
    ∃ ll' ∈ D.laneletLayer, nearestLane D (localToGps D mid) = some ll'.id ∧
      ∃ mid', Lanes.midpoint ll' = some mid' ∧ plane mid' = plane mid

/-- How far the offset goes along the way to the representative point. -/
noncomputable def advance (D : MapData ℝ) (ll : Lanelet ℝ) : ℝ :=
  match Lanes.midpoint ll with
  | none => 0
  | some mid => D.offsetX * mid.x + D.offsetY * mid.y

/-- The offset is perpendicular to the way between any two representative points. -/
def Perpendicular (D : MapData ℝ) : Prop :=
  ∀ ll ∈ D.laneletLayer.filter searchable, ∀ other ∈ D.laneletLayer.filter searchable, advance D ll = advance D other

variable {D : MapData ℝ} {target : LocalCoordinate ℝ} {ll other : Lanelet ℝ}

/-! ### The two distances -/

/-- The square of the distance of a representative point from a place. -/
noncomputable def sqTo (r : ℝ × ℝ) (ll : Lanelet ℝ) : ℝ :=
  match Lanes.midpoint ll with
  | none => 0
  | some mid => sqDist r (plane mid)

theorem frameDistance_le (kept : searchable ll = true) (kept' : searchable other = true) :
    frameDistance target ll ≤ frameDistance target other ↔ sqTo (plane target) ll ≤ sqTo (plane target) other := by
  obtain ⟨mid, middle⟩ := midpoint_searchable kept
  obtain ⟨mid', middle'⟩ := midpoint_searchable kept'
  simp only [frameDistance, sqTo, middle, middle', distanceTo_le]

/-- The distance of the search is the one from a point that lies off by the offset. -/
theorem searchDistance_le (kept : searchable ll = true) (kept' : searchable other = true) :
    searchDistance D target ll ≤ searchDistance D target other ↔
      sqTo (plane target) ll + 2 * advance D ll ≤ sqTo (plane target) other + 2 * advance D other := by
  obtain ⟨mid, middle⟩ := midpoint_searchable kept
  obtain ⟨mid', middle'⟩ := midpoint_searchable kept'
  have shifted : ∀ p : LocalCoordinate ℝ, planeDistance (D.offsetX + p.x - target.x) (D.offsetY + p.y - target.y) =
      distanceTo ⟨target.x - D.offsetX, target.y - D.offsetY, 0⟩ (plane p) := by
    intro p
    simp only [distanceTo, planeDistance, plane]
    congr 1
    ring
  rw [searchDistance_eq middle, searchDistance_eq middle', shifted, shifted, distanceTo_le]
  simp only [sqTo, advance, middle, middle', sqDist, plane]
  constructor <;> intro nearer <;> linarith

/-! ### What the searches select -/

theorem connectedLanes_subset (indexed : Indexed D) {reference : Lanelet ℝ} (member : reference ∈ D.laneletLayer)
    (b : Bool) : connectedLanes D reference b ⊆ D.laneletLayer := by
  unfold connectedLanes
  split
  · exact indexed.reached reference member _
  · exact fun _ inside => List.mem_of_mem_filter inside

theorem candidates_subset (indexed : Indexed D) (q : Query ℝ) : candidates D q ⊆ D.laneletLayer := by
  cases q with
  | Nearest gps => exact List.Subset.refl _
  | Connected gps ref b =>
    unfold candidates
    dsimp only
    split
    · rename_i reference found
      exact connectedLanes_subset indexed (getLanelet_mem found) b
    · exact List.nil_subset _

/-- A search selects the first nearest of its candidates. -/
theorem selected_first (indexed : Indexed D) {q : Query ℝ} {id : LaneId} (selected : selects D q = .ok (some id)) :
    ∃ ll, ll.id = id ∧ FirstNearest D (gpsToLocal D q.gps) (candidates D q) ll := by
  have best : bestLane D (gpsToLocal D q.gps) (candidates D q) = id ∧ id ≠ InvalId := by
    cases q with
    | Nearest gps =>
      simp only [selects, nearestLane, Except.ok.injEq] at selected
      split at selected
      · cases selected
      · split at selected
        · cases selected
        · rename_i valid
          cases selected
          exact ⟨rfl, valid⟩
    | Connected gps ref b =>
      simp only [selects, nearestConnectedLane] at selected
      split at selected
      · cases selected
      · obtain ⟨reference, found, rest⟩ := bind_ok selected
        simp only [candidates, found]
        split at rest
        · cases rest
        · rename_i valid
          cases rest
          exact ⟨rfl, valid⟩
  rcases bestLane_cases indexed (gpsToLocal D q.gps) (candidates_subset indexed q) with
    ⟨invalid, _⟩ | ⟨ll, first, _, own, _⟩
  · exact absurd (best.1.symm.trans invalid) best.2
  · exact ⟨ll, own.symm.trans best.1, first⟩

/-- A map with a lanelet that is not skipped is searched with success. -/
theorem nearestLane_some (indexed : Indexed D) (member : ll ∈ D.laneletLayer.filter searchable)
    (gps : GPSCoordinate ℝ) :
    ∃ first, FirstNearest D (gpsToLocal D gps) D.laneletLayer first ∧ first ∈ D.laneletLayer ∧
      nearestLane D gps = some first.id := by
  obtain ⟨inside, kept⟩ := List.mem_filter.mp member
  rcases bestLane_cases indexed (gpsToLocal D gps) (List.Subset.refl D.laneletLayer) with
    ⟨_, skipped⟩ | ⟨first, least, inside', best, valid⟩
  · rw [skipped ll inside] at kept
    cases kept
  · have layer : D.laneletLayer.isEmpty = false := by
      rw [List.isEmpty_eq_false_iff]
      exact List.ne_nil_of_mem inside
    refine ⟨first, least, inside', ?_⟩
    simp only [nearestLane, layer, best, valid, Bool.false_eq_true, if_false]

/-! ### Where the frame is one -/

/-- The first nearest lanelet of a search is nearest in the frame, where the offset is perpendicular. -/
theorem nearest_of_perpendicular (indexed : Indexed D) (level : Perpendicular D) {q : Query ℝ}
    (first : FirstNearest D (gpsToLocal D q.gps) (candidates D q) ll) : NearestInFrame D q ll := by
  have within : (candidates D q).filter searchable ⊆ D.laneletLayer.filter searchable :=
    List.filter_subset _ (candidates_subset indexed q)
  refine ⟨first.mem, fun other member => ?_⟩
  have kept := (List.mem_filter.mp first.mem).2
  have kept' := (List.mem_filter.mp member).2
  have nearer := (searchDistance_le kept kept').mp (first.le member)
  rw [level ll (within first.mem) other (within member)] at nearer
  exact (frameDistance_le kept kept').mpr (by linarith)

/-- A lane's own representative point is answered with itself, or one at the same place. -/
theorem own_of_perpendicular (indexed : Indexed D) (inverse : Inverse D) (level : Perpendicular D)
    (member : ll ∈ D.laneletLayer.filter searchable) {mid : LocalCoordinate ℝ} (middle : Lanes.midpoint ll = some mid) :
    ∃ ll' ∈ D.laneletLayer, nearestLane D (localToGps D mid) = some ll'.id ∧
      ∃ mid', Lanes.midpoint ll' = some mid' ∧ plane mid' = plane mid := by
  obtain ⟨ll', first, inside', selected⟩ := nearestLane_some indexed member (localToGps D mid)
  have kept' := (List.mem_filter.mp first.mem).2
  obtain ⟨mid', middle'⟩ := midpoint_searchable kept'
  have nearest := (nearest_of_perpendicular indexed level (q := .Nearest (localToGps D mid)) first).2 ll member
  have here := (frameDistance_le kept' (List.mem_filter.mp member).2).mp nearest
  have back : plane (gpsToLocal D (localToGps D mid)) = plane mid := inverse mid
  simp only [Query.gps, back, sqTo, middle, middle', sqDist_self] at here
  exact ⟨ll', inside', selected, mid', middle', (eq_of_sqDist here).symm⟩

/-! ### Where it is not -/

/-- Seen from places along the offset, the squares of the distances are lines. -/
theorem sqTo_along (kept : searchable ll = true) (k : ℝ) :
    sqTo (k * D.offsetX, k * D.offsetY) ll =
      height (sqTo (0, 0)) (fun ll => -2 * advance D ll) k ll + k ^ 2 * (D.offsetX ^ 2 + D.offsetY ^ 2) := by
  obtain ⟨mid, middle⟩ := midpoint_searchable kept
  simp only [sqTo, height, advance, middle, sqDist, plane]
  ring

/-- Where the representative points differ along the offset, some point is searched
    for in vain: no lanelet that the search may select is nearest in the frame. -/
theorem perpendicular_of_nearest (indexed : Indexed D) (inverse : Inverse D)
    (nearest : ∀ gps id, nearestLane D gps = some id → ∃ ll, ll.id = id ∧ NearestInFrame D (.Nearest gps) ll) :
    Perpendicular D := by
  by_contra level
  simp only [Perpendicular, not_forall] at level
  obtain ⟨i, inside, j, inside', differ⟩ := level
  have slopes : ∃ i ∈ {ll | ll ∈ D.laneletLayer.filter searchable}, ∃ j ∈ {ll | ll ∈ D.laneletLayer.filter searchable},
      -2 * advance D i ≠ -2 * advance D j := ⟨i, inside, j, inside', fun same => differ (by linarith)⟩
  obtain ⟨k, none⟩ := no_common_lowest (a := sqTo (0, 0)) (s := fun ll => -2 * advance D ll)
    (List.finite_toSet (D.laneletLayer.filter searchable)) slopes one_pos
  -- the point whose search looks from the place `k` along the offset
  set gps := localToGps D ⟨(k + 1) * D.offsetX, (k + 1) * D.offsetY, 0⟩
  have place : plane (gpsToLocal D gps) = ((k + 1) * D.offsetX, (k + 1) * D.offsetY) := inverse _
  obtain ⟨ll, first, member, selected⟩ := nearestLane_some indexed inside gps
  obtain ⟨ll', own, near⟩ := nearest gps ll.id selected
  have same : ll' = ll := List.inj_on_of_nodup_map indexed.ids (List.mem_of_mem_filter near.1) member own
  subst same
  have kept := (List.mem_filter.mp near.1).2
  refine none ll' ⟨near.1, fun other member' => ?_⟩ ⟨near.1, fun other member' => ?_⟩
  · have kept' := (List.mem_filter.mp member').2
    have nearer := (searchDistance_le kept kept').mp (first.le member')
    rw [place, sqTo_along kept, sqTo_along kept'] at nearer
    unfold height at nearer ⊢
    linarith
  · have kept' := (List.mem_filter.mp member').2
    have nearer := (frameDistance_le kept kept').mp (near.2 other member')
    change sqTo (plane (gpsToLocal D gps)) ll' ≤ sqTo (plane (gpsToLocal D gps)) other at nearer
    rw [place, sqTo_along kept, sqTo_along kept'] at nearer
    linarith

/-- All lookups use one frame exactly where the offset is perpendicular to the way
    between any two representative points. -/
theorem one_frame_iff (indexed : Indexed D) (inverse : Inverse D) : OneFrame D ↔ Perpendicular D := by
  constructor
  · intro frame
    exact perpendicular_of_nearest indexed inverse fun gps id selected =>
      frame.nearest (.Nearest gps) id (congrArg Except.ok selected)
  · intro level
    constructor
    · intro q id selected
      obtain ⟨ll, own, first⟩ := selected_first indexed selected
      exact ⟨ll, own, nearest_of_perpendicular indexed level first⟩
    · intro ll member mid middle
      exact own_of_perpendicular indexed inverse level member middle

/-! ### On the avenue -/

theorem avenue_inverse (offsetX : ℝ) : Inverse (avenue offsetX) := by
  intro p
  simp only [plane, gpsToLocal, localToGps, avenue]
  congr 1 <;> ring

/-- Without an offset the avenue has one frame. -/
theorem one_frame_on_avenue : OneFrame (avenue 0) := by
  refine (one_frame_iff (avenue_indexed 0) (avenue_inverse 0)).mpr fun ll _ other _ => ?_
  have still : ∀ ll, advance (avenue 0) ll = 0 := by
    intro ll
    unfold advance
    split <;> simp [avenue]
  rw [still, still]

/-- With an offset of 90 metres the representative point of the long lane is
    answered with the short one. -/
theorem neighbour_selected :
    nearestLane (avenue 90) (localToGps (avenue 90) ⟨69100, 68800, 40⟩) = some shortLane.id ∧
      ¬ OneFrame (avenue 90) := by
  have inside : longLane ∈ (avenue 90).laneletLayer.filter searchable := by
    simp [avenue, avenueLanes, longLane, searchable, drivable]
  have selected : nearestLane (avenue 90) (localToGps (avenue 90) ⟨69100, 68800, 40⟩) = some shortLane.id := by
    obtain ⟨ll, first, member, selected⟩ :=
      nearestLane_some (avenue_indexed 90) inside (localToGps (avenue 90) ⟨69100, 68800, 40⟩)
    rcases List.mem_cons.mp member with rfl | short
    · have nearer := first.le (b := shortLane) (by simp [avenue, avenueLanes, shortLane, searchable, drivable])
      rw [searchDistance_le (by simp [longLane, searchable, drivable]) (by simp [shortLane, searchable, drivable]),
        avenue_inverse 90] at nearer
      norm_num [sqTo, advance, Lanes.midpoint, longLane, shortLane, sqDist, plane, avenue] at nearer
    · rw [selected, List.mem_singleton.mp short]
  refine ⟨selected, fun frame => ?_⟩
  obtain ⟨ll, member, own, mid, middle, there⟩ := frame.own longLane inside ⟨69100, 68800, 40⟩ rfl
  have short : shortLane.id = ll.id := Option.some.inj (selected.symm.trans own)
  rcases List.mem_cons.mp member with rfl | same
  · simp [shortLane, longLane] at short
  · rw [List.mem_singleton.mp same] at middle
    simp [Lanes.midpoint, shortLane] at middle
    subst middle
    norm_num [plane] at there

end
end AutowareAgent.Offsets
