import AutowareAgent.LaneCache
import AutowareAgent.Minimum
import Mathlib.Algebra.Order.Ring.Rat
import Mathlib.Data.List.Nodup

/-!
What the two searches select. Their loops are one loop over different candidates:
it finds the first lanelet at the least distance among those that are not skipped.
The cache may change the entry that is answered, not the lane.
-/
namespace AutowareAgent.LaneSearch
open AutowareAgent.Memo AutowareAgent.Lanes AutowareAgent.LaneCache AutowareAgent.Minimum

section
variable {R : Type}

/-- What lanelet2 promises of a map: identifiers are unique and valid, and the
    routing graph reaches lanelets of the map. -/
structure Indexed (D : MapData R) : Prop where
  ids : (D.laneletLayer.map Lanelet.id).Nodup
  valid : ∀ ll ∈ D.laneletLayer, ll.id ≠ InvalId
  reached : ∀ ll ∈ D.laneletLayer, ∀ dist, D.reachableSet ll dist ⊆ D.laneletLayer

/-- A lanelet that the searches do not skip: drivable, with a centreline that is not empty. -/
def searchable (ll : Lanelet R) : Bool := drivable ll && !ll.centerline.isEmpty

theorem midpoint_none {ll : Lanelet R} : Lanes.midpoint ll = none ↔ ll.centerline = [] := by
  unfold Lanes.midpoint
  rw [List.getElem?_eq_none_iff, ← List.length_eq_zero_iff]
  omega

theorem midpoint_searchable {ll : Lanelet R} (found : searchable ll = true) : ∃ mid, Lanes.midpoint ll = some mid := by
  refine Option.ne_none_iff_exists'.mp fun none => ?_
  simp [searchable, midpoint_none.mp none] at found

/-- A lanelet of the map is found by its identifier. -/
theorem getLanelet_of_mem {D : MapData R} (indexed : Indexed D) {ll : Lanelet R} (member : ll ∈ D.laneletLayer) :
    getLanelet D ll.id = .ok ll := by
  obtain ⟨held, found⟩ := (getLanelet_exists D ll.id).mpr (List.any_eq_true.mpr ⟨ll, member, by simp⟩)
  rw [found, List.inj_on_of_nodup_map indexed.ids (getLanelet_mem found) member (getLanelet_id found)]

end

section
variable {R : Type} [Zero R] [Add R] [Sub R] [Mul R] [Div R] [NatCast R] [LT R] [DecidableLT R] [CMath R]
variable {D : MapData R}

/-- An entry cannot be made only where the lane has no segment. -/
theorem laneAt_fault (indexed : Indexed D) {ll : Lanelet R} (member : ll ∈ D.laneletLayer) {gps : GPSCoordinate R}
    {fault : Fault} (fails : laneAt D ll.id gps = .error fault) :
    fault = .UnassignedPoint ∧ ll.centerline.length < 2 := by
  have found := getLanelet_of_mem indexed member
  rw [laneAt_eq found] at fails
  rcases projected_cases found gps with ⟨short, failed⟩ | ⟨_, best, _, projected⟩
  · rw [failed] at fails
    cases fails
    exact ⟨rfl, short⟩
  · rw [projected] at fails
    cases fails

/-- What a search answers is an entry of the lane that it selects. -/
theorem selects_of_answer {m : LaneletMap R} {q : Query R} {info : LaneInfo R}
    (answered : answer D m q = .ok (some info)) : selects D q = .ok (some info.laneId) := by
  rw [answer_eq] at answered
  split at answered
  · cases answered
  · cases answered
  · rename_i lane selected
    rw [selected]
    cases held : lookup LaneInfo.laneId m.cache lane with
    | some cached =>
      rw [held] at answered
      cases answered
      rw [key_of_lookup LaneInfo.laneId held]
    | none =>
      rw [held] at answered
      obtain ⟨made, built, rest⟩ := map_ok answered
      cases rest
      rw [laneAt_id built]

end

section
variable {R : Type} [Zero R] [Add R] [Sub R] [Mul R] [Div R] [NatCast R] [LinearOrder R] [CMath R]

/-- The distance that the searches compare: from the point to the representative
    point of the lanelet. It is of no use where the centreline is empty. -/
def searchDistance (D : MapData R) (target : LocalCoordinate R) (ll : Lanelet R) : R :=
  match Lanes.midpoint ll with
  | none => 0
  | some mid => planeDistance (D.offsetX + mid.x - target.x) (D.offsetY + mid.y - target.y)

/-- The first candidate at the least distance among those that are not skipped. -/
def FirstNearest (D : MapData R) (target : LocalCoordinate R) (candidates : List (Lanelet R)) (ll : Lanelet R) : Prop :=
  FirstLeast (searchDistance D target) (candidates.filter searchable) ll

/-- What a search over the candidates answers: nothing where all are skipped, the
    lane of the first nearest, or it reads a point that nothing assigned, where
    this lane has no segment and is not cached. -/
structure Finds (D : MapData R) (m : LaneletMap R) (target : LocalCoordinate R) (candidates : List (Lanelet R))
    (result : Except Fault (Option (LaneInfo R))) : Prop where
  nothing : result = .ok none ↔ ∀ ll ∈ candidates, searchable ll = false
  lane : ∀ info, result = .ok (some info) → ∃ ll, FirstNearest D target candidates ll ∧ info.laneId = ll.id
  fault : ∀ fault, result = .error fault → fault = .UnassignedPoint ∧ ∃ ll, FirstNearest D target candidates ll ∧
    ll.centerline.length < 2 ∧ lookup LaneInfo.laneId m.cache ll.id = none

variable {D : MapData R} {m : LaneletMap R} {target : LocalCoordinate R} {candidates : List (Lanelet R)}

/-! ### The loop -/

/-- What the loop stores of the first nearest lanelet. -/
def stored (D : MapData R) (target : LocalCoordinate R) : Option (Lanelet R) → Option R × LaneId
  | none => (none, InvalId)
  | some ll => (some (searchDistance D target ll), ll.id)

omit [Div R] [NatCast R] [LinearOrder R] in
theorem searchDistance_eq {ll : Lanelet R} {mid : LocalCoordinate R} (middle : Lanes.midpoint ll = some mid) :
    searchDistance D target ll = planeDistance (D.offsetX + mid.x - target.x) (D.offsetY + mid.y - target.y) := by
  rw [searchDistance, middle]

omit [Div R] [NatCast R] in
/-- The loop of the searches looks for the least distance. -/
theorem bestLane_eq : bestLane D target candidates =
    (stored D target ((candidates.filter searchable).argmin (searchDistance D target))).2 := by
  refine congrArg Prod.snd (foldl_argmin_filter (stored D target) ?_ ?_ ?_ candidates)
  · intro best ll skipped
    unfold nearerLane
    cases drives : drivable ll with
    | false => rfl
    | true =>
      have empty : Lanes.midpoint ll = none := by
        rw [midpoint_none]
        simpa [searchable, drives] using skipped
      simp [empty]
  · intro ll kept
    obtain ⟨mid, middle⟩ := midpoint_searchable kept
    have drives : drivable ll = true := (Bool.and_eq_true_iff.mp kept).1
    simp [nearerLane, drives, middle, stored, below, searchDistance_eq middle]
  · intro best ll kept
    obtain ⟨mid, middle⟩ := midpoint_searchable kept
    have drives : drivable ll = true := (Bool.and_eq_true_iff.mp kept).1
    simp only [nearerLane, drives, middle, stored, below, decide_eq_true_eq, if_true, ← searchDistance_eq middle]

omit [Div R] [NatCast R] in
/-- A search over lanelets of the map selects the first nearest, and nothing where there is none. -/
theorem bestLane_cases (indexed : Indexed D) (target : LocalCoordinate R) (within : candidates ⊆ D.laneletLayer) :
    (bestLane D target candidates = InvalId ∧ ∀ ll ∈ candidates, searchable ll = false) ∨
    ∃ ll, FirstNearest D target candidates ll ∧ ll ∈ D.laneletLayer ∧ bestLane D target candidates = ll.id ∧
      ll.id ≠ InvalId := by
  rw [bestLane_eq]
  cases least : (candidates.filter searchable).argmin (searchDistance D target) with
  | none =>
    refine .inl ⟨rfl, fun ll member => ?_⟩
    have skipped := List.filter_eq_nil_iff.mp (List.argmin_eq_none.mp least) ll member
    simpa using skipped
  | some ll =>
    have member := within (List.mem_of_mem_filter (List.argmin_mem least))
    exact .inr ⟨ll, argmin_first.mp least, member, rfl, indexed.valid ll member⟩

omit [Div R] [NatCast R] in
theorem firstNearest_searchable {ll : Lanelet R} (first : FirstNearest D target candidates ll) :
    ll ∈ candidates ∧ searchable ll = true :=
  List.mem_filter.mp first.mem

/-- A search that selects over its candidates answers for its selection, whatever is cached. -/
theorem finds_of_selects (indexed : Indexed D) (within : candidates ⊆ D.laneletLayer) {q : Query R}
    (selected : selects D q = .ok (if bestLane D target candidates = InvalId then none
      else some (bestLane D target candidates))) : Finds D m target candidates (answer D m q) := by
  rw [answer_eq, selected]
  rcases bestLane_cases indexed target within with ⟨invalid, skipped⟩ | ⟨ll, first, member, own, valid⟩
  · rw [if_pos invalid]
    exact ⟨iff_of_true rfl skipped, by simp, by simp⟩
  · rw [own, if_neg valid]
    obtain ⟨inside, found⟩ := firstNearest_searchable first
    have some : ¬ ∀ ll ∈ candidates, searchable ll = false := by
      intro skipped
      rw [skipped ll inside] at found
      cases found
    dsimp only
    cases held : lookup LaneInfo.laneId m.cache ll.id with
    | some info =>
      refine ⟨iff_of_false (by simp) some, ?_, by simp⟩
      rintro _ ⟨⟩
      exact ⟨ll, first, key_of_lookup LaneInfo.laneId held⟩
    | none =>
      cases made : laneAt D ll.id q.gps with
      | ok info =>
        refine ⟨iff_of_false (by simp [Except.map]) some, ?_, by simp [Except.map]⟩
        rintro _ ⟨⟩
        exact ⟨ll, first, laneAt_id made⟩
      | error fault =>
        refine ⟨iff_of_false (by simp [Except.map]) some, by simp [Except.map], ?_⟩
        rintro _ ⟨⟩
        obtain ⟨read, short⟩ := laneAt_fault indexed member made
        exact ⟨read, ll, first, short, held⟩

/-! ### The searches -/

variable {ref : LaneId} {reference : Lanelet R}

theorem nearest_finds (indexed : Indexed D) (gps : GPSCoordinate R) :
    Finds D m (gpsToLocal D gps) D.laneletLayer (answer D m (.Nearest gps)) := by
  refine finds_of_selects indexed (List.Subset.refl _) ?_
  unfold selects nearestLane
  cases layer : D.laneletLayer with
  | nil => rfl
  | cons ll rest => rfl

theorem connected_finds (indexed : Indexed D) (found : getLanelet D ref = .ok reference) (gps : GPSCoordinate R) :
    Finds D m (gpsToLocal D gps) (D.reachableSet reference ((8000 : Nat) : R))
      (answer D m (.Connected gps ref true)) := by
  have member := getLanelet_mem found
  refine finds_of_selects indexed (indexed.reached reference member _) ?_
  have layer : D.laneletLayer.isEmpty = false := by
    cases empty : D.laneletLayer with
    | nil =>
      rw [empty] at member
      cases member
    | cons ll rest => rfl
  simp only [selects, nearestConnectedLane, layer, found, bind, Except.bind, connectedLanes, if_true]
  simp only [Bool.false_eq_true, if_false]
  split <;> rfl

/-- Both searches answer with the first nearest of their candidates, over any
    caches; the connected one is not nearer, and they select the same lane where
    the only nearest lanelet of the map is reachable. -/
theorem searches_agree (indexed : Indexed D) (found : getLanelet D ref = .ok reference) (gps : GPSCoordinate R)
    (m m' : LaneletMap R) :
    Finds D m (gpsToLocal D gps) D.laneletLayer (answer D m (.Nearest gps)) ∧
    Finds D m' (gpsToLocal D gps) (D.reachableSet reference ((8000 : Nat) : R))
      (answer D m' (.Connected gps ref true)) ∧
    (∀ ll ll', FirstNearest D (gpsToLocal D gps) D.laneletLayer ll →
      FirstNearest D (gpsToLocal D gps) (D.reachableSet reference ((8000 : Nat) : R)) ll' →
        searchDistance D (gpsToLocal D gps) ll ≤ searchDistance D (gpsToLocal D gps) ll') ∧
    ∀ ll, FirstNearest D (gpsToLocal D gps) D.laneletLayer ll →
      (∀ other ∈ D.laneletLayer.filter searchable,
        searchDistance D (gpsToLocal D gps) other = searchDistance D (gpsToLocal D gps) ll → other = ll) →
      ll ∈ D.reachableSet reference ((8000 : Nat) : R) → ∀ info info', answer D m (.Nearest gps) = .ok (some info) →
        answer D m' (.Connected gps ref true) = .ok (some info') → info.laneId = ll.id ∧ info'.laneId = ll.id := by
  have nearest := nearest_finds (m := m) indexed gps
  have connected := connected_finds (m := m') indexed found gps
  have fewer : (D.reachableSet reference ((8000 : Nat) : R)).filter searchable ⊆ D.laneletLayer.filter searchable :=
    List.filter_subset _ (indexed.reached reference (getLanelet_mem found) _)
  refine ⟨nearest, connected, fun ll ll' first first' => first.le_subset first' fewer, ?_⟩
  intro ll first only reachable info info' answered answered'
  obtain ⟨own, near, same⟩ := nearest.lane info answered
  obtain ⟨own', near', same'⟩ := connected.lane info' answered'
  have again : FirstNearest D (gpsToLocal D gps) (D.reachableSet reference ((8000 : Nat) : R)) ll :=
    first.of_subset only fewer (List.mem_filter.mpr ⟨reachable, (firstNearest_searchable first).2⟩)
  rw [same, same', near.unique first, near'.unique again]
  exact ⟨rfl, rfl⟩

end

theorem street_indexed : Indexed street where
  ids := by decide
  valid := by decide
  reached := by
    intro ll _ dist reached member
    simp only [street] at member
    split at member
    · exact List.mem_of_mem_take member
    · exact List.mem_of_mem_filter member

section
attribute [local instance] streetMath

/-- The searches on the street, from its first lane. -/
theorem searches_agree_on_street :
    Finds street .fresh (gpsToLocal street ⟨35 + 688 / 1000, 139 + 69130 / 100000⟩) streetLanes
      (answer street .fresh (.Nearest ⟨35 + 688 / 1000, 139 + 69130 / 100000⟩)) ∧
    Finds street .fresh (gpsToLocal street ⟨35 + 688 / 1000, 139 + 69130 / 100000⟩) (streetLanes.take 2)
      (answer street .fresh (.Connected ⟨35 + 688 / 1000, 139 + 69130 / 100000⟩ 101 true)) := by
  have first : getLanelet street 101 = .ok ⟨101, some "road", [⟨69000, 68800, 40⟩, ⟨69100, 68800, 40⟩]⟩ := rfl
  have agree := searches_agree street_indexed first ⟨35 + 688 / 1000, 139 + 69130 / 100000⟩ .fresh .fresh
  exact ⟨agree.1, agree.2.1⟩

end
end AutowareAgent.LaneSearch
