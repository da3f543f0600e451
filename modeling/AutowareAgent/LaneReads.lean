import AutowareAgent.LaneSearch

/-!
What the lookups read of a centreline. The searches skip lanelets without a
centreline, the lookup by identifier does not, and none skips a centreline of one
point, which has no segment to project onto. A lookup reads only what is there,
and answers with a point of the lane's own centreline, where the lane it resolves
has a segment.
-/
namespace AutowareAgent.LaneReads
open AutowareAgent.Machines AutowareAgent.Memo AutowareAgent.Lanes AutowareAgent.LaneCache AutowareAgent.LaneSearch

section
variable {R : Type} [Zero R] [Add R] [Sub R] [Mul R] [Div R] [NatCast R] [LT R] [DecidableLT R] [CMath R]

/-- The lookups: the two searches, and `getLaneById`. -/
inductive Lookup (R : Type)
  | Search (q : Query R)
  | ById (laneId : LaneId)

/-- What a lookup returns. -/
def Lookup.answer (D : MapData R) (m : LaneletMap R) : Lookup R → Except Fault (Option (LaneInfo R))
  | .Search q => LaneCache.answer D m q
  | .ById id => (getLaneById D id m).map Prod.fst

/-- The lanelet that a lookup resolves. -/
def Lookup.lane (D : MapData R) : Lookup R → Except Fault (Option LaneId)
  | .Search q => selects D q
  | .ById id => .ok (some id)

/-- The point was computed for a segment of the centreline. -/
def Assigned (ll : Lanelet R) (p : LocalCoordinate R) : Prop :=
  ∃ target, ∃ s ∈ ll.centerline.zip ll.centerline.tail, p = segmentPoint target s.1 s.2

/-- The entry has a point of its own lane. -/
def OnItsLane (D : MapData R) (info : LaneInfo R) : Prop :=
  ∃ ll, getLanelet D info.laneId = .ok ll ∧ Assigned ll info.localPoint

/-- Nothing is read that is not there, and an entry has a point of its own lane. -/
structure Safe (D : MapData R) (result : Except Fault (Option (LaneInfo R))) : Prop where
  inside : result ≠ .error .CenterlineOutOfRange
  assigned : result ≠ .error .UnassignedPoint
  own : ∀ info, result = .ok (some info) → OnItsLane D info

/-- The lanelet that a lookup resolves has a segment. -/
def HasSegment (D : MapData R) (l : Lookup R) : Prop :=
  ∀ id ll, l.lane D = .ok (some id) → getLanelet D id = .ok ll → 2 ≤ ll.centerline.length

/-! ### Entries that are made -/

/-- What the loop over the segments keeps was computed for one of them. -/
theorem closer_assigned (target : LocalCoordinate R) (segments : List (LocalCoordinate R × LocalCoordinate R))
    {best : Option (R × LocalCoordinate R)} {r : R × LocalCoordinate R}
    (kept : segments.foldl (closerPoint target) best = some r) :
    best = some r ∨ ∃ s ∈ segments, r.2 = segmentPoint target s.1 s.2 := by
  induction segments generalizing best with
  | nil => exact .inl kept
  | cons s rest ih =>
    rcases ih kept with turned | ⟨s', member, own⟩
    · unfold closerPoint at turned
      simp only at turned
      split at turned
      · cases turned
        exact .inr ⟨s, List.mem_cons_self, rfl⟩
      · exact .inl turned
    · exact .inr ⟨s', List.mem_cons_of_mem _ member, own⟩

variable {D : MapData R} {id : LaneId} {ll : Lanelet R} {gps : GPSCoordinate R} {m : LaneletMap R}

theorem laneAt_cases (found : getLanelet D id = .ok ll) (gps : GPSCoordinate R) :
    (ll.centerline.length < 2 ∧ laneAt D id gps = .error .UnassignedPoint) ∨
    (2 ≤ ll.centerline.length ∧ ∃ info, laneAt D id gps = .ok info ∧ OnItsLane D info) := by
  rw [laneAt_eq found]
  rcases projected_cases found gps with ⟨short, failed⟩ | ⟨long, best, kept, projected⟩
  · rw [failed]
    exact .inl ⟨short, rfl⟩
  · rw [projected]
    rcases closer_assigned _ _ kept with nothing | ⟨s, member, own⟩
    · cases nothing
    · refine .inr ⟨long, _, rfl, ll, ?_, _, s, member, own⟩
      rw [← getLanelet_id found] at found
      exact found

theorem makeLaneById_cases (found : getLanelet D id = .ok ll) :
    (ll.centerline.length < 2 ∧
      (makeLaneById D id = .error .CenterlineOutOfRange ∨ makeLaneById D id = .error .UnassignedPoint)) ∨
    (2 ≤ ll.centerline.length ∧ ∃ info, makeLaneById D id = .ok info ∧ OnItsLane D info) := by
  cases middle : Lanes.midpoint ll with
  | none =>
    have empty := midpoint_none.mp middle
    refine .inl ⟨by simp [empty], .inl ?_⟩
    simp only [makeLaneById, found, midpointGps, middle, bind, Except.bind]
  | some mid =>
    have made : makeLaneById D id = laneAt D id (localToGps D mid) := by
      simp only [makeLaneById, laneAt, found, midpointGps, middle, bind, Except.bind]
    rw [made]
    exact (laneAt_cases found _).imp_left fun short => ⟨short.1, .inr short.2⟩

/-! ### The cache -/

/-- Whatever calls a map has served, its entries have points of their own lanes. -/
theorem cache_onItsLane (reach : Reachable (server D) m) : ∀ info ∈ m.cache, OnItsLane D info := by
  obtain ⟨past, run⟩ := reach
  refine run.invariant (I := fun _ m => ∀ info ∈ m.cache, OnItsLane D info) ?_ ?_
  · rintro _ rfl info member
    cases member
  · intro past m call lanes m' _ held stepped info member
    rcases serve_cases stepped with same | ⟨lane, gps, new, made, _, longer⟩
    · exact held info (same ▸ member)
    · rw [longer] at member
      rcases List.mem_append.mp member with old | last
      · exact held info old
      · obtain ⟨ll, found, _⟩ := bind_ok made
        rw [List.mem_singleton.mp last]
        rcases laneAt_cases found gps with ⟨_, failed⟩ | ⟨_, info', computed, own⟩
        · cases failed.symm.trans made
        · cases computed.symm.trans made
          exact own

omit [CMath R] in
/-- A centreline with a point that was computed for a segment has one. -/
theorem assigned_long {p : LocalCoordinate R} (assigned : Assigned ll p) : 2 ≤ ll.centerline.length := by
  obtain ⟨target, s, member, _⟩ := assigned
  by_contra short
  rw [(segments_nil _).mpr (Nat.not_le.mp short)] at member
  cases member

/-! ### Lookups -/

omit [CMath R] in
theorem safe_nothing : Safe D (.ok none) := ⟨nofun, nofun, nofun⟩

omit [CMath R] in
theorem safe_thrown : Safe D (.error .NoSuchPrimitive) := ⟨nofun, nofun, nofun⟩

omit [CMath R] in
theorem safe_entry {info : LaneInfo R} (own : OnItsLane D info) : Safe D (.ok (some info)) where
  inside := nofun
  assigned := nofun
  own := by
    rintro _ ⟨⟩
    exact own

omit [Zero R] [Add R] [Sub R] [Mul R] [Div R] [NatCast R] [LT R] [DecidableLT R] [CMath R] in
theorem getLanelet_error {fault : Fault} (fails : getLanelet D id = .error fault) : fault = .NoSuchPrimitive := by
  unfold getLanelet at fails
  split at fails <;> cases fails
  rfl

omit [Div R] in
/-- A search for a selection may throw, it reads nothing that is not there. -/
theorem selects_error {q : Query R} {fault : Fault} (fails : selects D q = .error fault) : fault = .NoSuchPrimitive := by
  cases q with
  | Nearest gps => cases fails
  | Connected gps ref b =>
    simp only [selects, nearestConnectedLane] at fails
    split at fails
    · cases fails
    · cases found : getLanelet D ref with
      | error e =>
        rw [found] at fails
        cases fails
        exact getLanelet_error found
      | ok reference =>
        rw [found] at fails
        simp only [bind, Except.bind] at fails
        split at fails <;> cases fails

omit [CMath R] in
/-- An entry that is made is safe where its lane has a segment. -/
theorem safe_made {make : Except Fault (LaneInfo R)}
    (outcome : (ll.centerline.length < 2 ∧ (make = .error .CenterlineOutOfRange ∨ make = .error .UnassignedPoint)) ∨
      (2 ≤ ll.centerline.length ∧ ∃ info, make = .ok info ∧ OnItsLane D info)) :
    Safe D (make.map some) ↔ 2 ≤ ll.centerline.length := by
  rcases outcome with ⟨short, failed⟩ | ⟨long, info, rfl, own⟩
  · refine iff_of_false (fun safe => ?_) (Nat.not_le.mpr short)
    rcases failed with rfl | rfl
    · exact safe.inside rfl
    · exact safe.assigned rfl
  · exact iff_of_true (safe_entry own) long

omit [Div R] in
/-- Everything is about the lane that is resolved. -/
theorem hasSegment_iff {l : Lookup R} (lane : l.lane D = .ok (some id)) (found : getLanelet D id = .ok ll) :
    HasSegment D l ↔ 2 ≤ ll.centerline.length := by
  constructor
  · intro has
    exact has id ll lane found
  · intro long id' ll' lane' found'
    cases lane.symm.trans lane'
    cases found.symm.trans found'
    exact long

omit [Div R] in
/-- Nothing is asked of a lane that is not in the layer. -/
theorem hasSegment_missing {l : Lookup R} {fault : Fault} (lane : l.lane D = .ok (some id))
    (missing : getLanelet D id = .error fault) : HasSegment D l := by
  intro id' ll lane' found
  cases lane.symm.trans lane'
  cases missing.symm.trans found

/-- A lane that is cached has a segment: its entry has a point of it. -/
theorem hasSegment_cached (held : ∀ info ∈ m.cache, OnItsLane D info) {l : Lookup R} {info : LaneInfo R}
    (lane : l.lane D = .ok (some id)) (cached : lookup LaneInfo.laneId m.cache id = some info) :
    OnItsLane D info ∧ HasSegment D l := by
  have own : OnItsLane D info := held info (List.mem_of_find?_eq_some cached)
  refine ⟨own, ?_⟩
  obtain ⟨ll, found, assigned⟩ := own
  rw [key_of_lookup LaneInfo.laneId cached] at found
  exact (hasSegment_iff lane found).mpr (assigned_long assigned)

theorem search_safe (held : ∀ info ∈ m.cache, OnItsLane D info) (q : Query R) :
    Safe D (LaneCache.answer D m q) ↔ HasSegment D (.Search q) := by
  rw [answer_eq]
  cases selected : selects D q with
  | error fault =>
    rw [selects_error selected]
    refine iff_of_true safe_thrown fun id ll lane => ?_
    cases selected.symm.trans lane
  | ok lane =>
    cases lane with
    | none =>
      refine iff_of_true safe_nothing fun id ll lane => ?_
      cases selected.symm.trans lane
    | some id =>
      dsimp only
      cases cached : lookup LaneInfo.laneId m.cache id with
      | some info =>
        obtain ⟨own, has⟩ := hasSegment_cached (l := .Search q) held selected cached
        exact iff_of_true (safe_entry own) has
      | none =>
        cases found : getLanelet D id with
        | error fault =>
          have thrown : laneAt D id q.gps = .error .NoSuchPrimitive := by
            simp only [laneAt, found, getLanelet_error found, bind, Except.bind]
          rw [thrown]
          exact iff_of_true safe_thrown (hasSegment_missing selected found)
        | ok ll =>
          rw [hasSegment_iff (l := .Search q) selected found]
          exact safe_made ((laneAt_cases found q.gps).imp_left fun short => ⟨short.1, .inr short.2⟩)

theorem byId_safe (held : ∀ info ∈ m.cache, OnItsLane D info) (id : LaneId) :
    Safe D ((getLaneById D id m).map Prod.fst) ↔ HasSegment D (.ById id) := by
  unfold getLaneById
  cases cached : lookup LaneInfo.laneId m.cache id with
  | some info =>
    obtain ⟨own, has⟩ := hasSegment_cached (l := .ById id) held rfl cached
    exact iff_of_true (safe_entry own) has
  | none =>
    dsimp only
    cases found : getLanelet D id with
    | error fault =>
      have missing : ¬ D.laneletLayer.any (fun ll => ll.id = id) = true := by
        rw [← getLanelet_exists D id, found]
        simp
      rw [if_neg missing]
      exact iff_of_true safe_nothing (hasSegment_missing rfl found)
    | ok ll =>
      rw [if_pos ((getLanelet_exists D id).mp ⟨ll, found⟩), hasSegment_iff (l := .ById id) rfl found]
      have made : (fetch LaneInfo.laneId m.cache id (makeLaneById D id) >>= fun r =>
          Except.ok (some r.1, { m with cache := r.2 })).map Prod.fst = (makeLaneById D id).map some := by
        rw [fetch, cached]
        cases makeLaneById D id <;> rfl
      exact (congrArg (Safe D) made).to_iff.trans (safe_made (makeLaneById_cases found))

theorem lookup_safe (held : ∀ info ∈ m.cache, OnItsLane D info) (l : Lookup R) :
    Safe D (l.answer D m) ↔ HasSegment D l := by
  cases l with
  | Search q => exact search_safe held q
  | ById id => exact byId_safe held id

/-- After any calls a lookup is safe exactly where the lane that it resolves has a
    segment, and all are safe exactly on the maps where all lanes have one. -/
theorem lookup_safe_iff (D : MapData R) :
    (∀ m, Reachable (server D) m → ∀ l : Lookup R, Safe D (l.answer D m) ↔ HasSegment D l) ∧
    ((∀ m, Reachable (server D) m → ∀ l : Lookup R, Safe D (l.answer D m)) ↔
      ∀ id ll, getLanelet D id = .ok ll → 2 ≤ ll.centerline.length) := by
  have each : ∀ m, Reachable (server D) m → ∀ l : Lookup R, Safe D (l.answer D m) ↔ HasSegment D l :=
    fun m reach l => lookup_safe (cache_onItsLane reach) l
  refine ⟨each, ?_⟩
  constructor
  · intro all id ll found
    have served := fresh_served D
    exact (each _ served (.ById id)).mp (all _ served (.ById id)) id ll rfl found
  · intro long m reach l
    exact (each m reach l).mpr fun id ll _ found => long id ll found

end

/-! ### A lane without a segment -/

section
attribute [local instance] streetMath

/-- The street with a lane of no points and one of a single point. -/
def stubbyStreet : MapData ℚ :=
  { street with laneletLayer := [⟨104, some "road", []⟩, ⟨105, some "road", [⟨69000, 68800, 40⟩]⟩] }

/-- The lane of no points is asked for, and the one of a single point is found nearest. -/
theorem stub_read :
    ¬ Safe stubbyStreet (Lookup.answer stubbyStreet .fresh (.ById 104)) ∧
    ¬ Safe stubbyStreet (Lookup.answer stubbyStreet .fresh (.Search (.Nearest ⟨35 + 688 / 1000, 139 + 69 / 100⟩))) := by
  constructor
  · intro safe
    exact safe.inside (by decide +kernel)
  · intro safe
    exact safe.assigned (by decide +kernel)

end
end AutowareAgent.LaneReads
