import AutowareAgent.Lanes
import AutowareAgent.Machines

/-!
The lane cache. Every lookup is a request to one memo table keyed by lanelet,
though what it makes also depends on the GPS point. So a lookup answers with the
projection of the point for which the lanelet was first resolved, and answers as
a fresh map would exactly when both points project alike. The runs of the map's
callers end where a call reads what is not there.
-/
namespace AutowareAgent.LaneCache
open AutowareAgent.Machines AutowareAgent.Memo AutowareAgent.Lanes

section
variable {R : Type} [Zero R] [Add R] [Sub R] [Mul R] [Div R] [NatCast R] [LT R] [DecidableLT R] [CMath R]

/-- The calls that use the cache. -/
inductive Call (R : Type)
  | FindNearestLane (gps : GPSCoordinate R)
  | FindNearestConnectedLane (gps : GPSCoordinate R) (referenceId : LaneId) (mustBeReachableFromRef : Bool)
  | GetLaneById (laneId : LaneId)
  | SetDefaultStart (name : String) (gps : GPSCoordinate R)
  deriving DecidableEq, Repr

/-- What a call returns, and the map that it leaves. -/
def Call.result (D : MapData R) (m : LaneletMap R) : Call R → Except Fault (Option (LaneInfo R) × LaneletMap R)
  | .FindNearestLane gps => findNearestLane D gps m
  | .FindNearestConnectedLane gps ref b => findNearestConnectedLane D gps ref b m
  | .GetLaneById id => getLaneById D id m
  | .SetDefaultStart name gps => (setDefaultStart D name gps m).map fun after => (none, after)

/-- A call that throws leaves the map alone; one that reads what is not there has
    no further run. -/
def serve (D : MapData R) (m : LaneletMap R) (call : Call R) : Except Fault (LaneletMap R × List (LaneInfo R)) :=
  match call.result D m with
  | .ok (lane, after) => .ok (after, lane.toList)
  | .error .NoSuchPrimitive => .ok (m, [])
  | .error fault => .error fault

/-- The machine of the map's callers. -/
def server (D : MapData R) : Machine (LaneletMap R) (Call R) (LaneInfo R) Fault where
  Start m := m = .fresh
  step := serve D

/-- The two searches, with their arguments. -/
inductive Query (R : Type)
  | Nearest (gps : GPSCoordinate R)
  | Connected (gps : GPSCoordinate R) (referenceId : LaneId) (mustBeReachableFromRef : Bool)

/-- The point a search is about. -/
def Query.gps : Query R → GPSCoordinate R
  | .Nearest gps => gps
  | .Connected gps _ _ => gps

/-- The lanelet a search selects, before it looks at the cache. -/
def selects (D : MapData R) : Query R → Except Fault (Option LaneId)
  | .Nearest gps => .ok (nearestLane D gps)
  | .Connected gps ref b => nearestConnectedLane D gps ref b

/-- What a search returns. -/
def answer (D : MapData R) (m : LaneletMap R) : Query R → Except Fault (Option (LaneInfo R))
  | .Nearest gps => (findNearestLane D gps m).map Prod.fst
  | .Connected gps ref b => (findNearestConnectedLane D gps ref b m).map Prod.fst

/-- The lanelet that a call resolves and the point for which it does. -/
def resolves (D : MapData R) : Call R → Option (LaneId × GPSCoordinate R)
  | .FindNearestLane gps => (nearestLane D gps).map (·, gps)
  | .FindNearestConnectedLane gps ref b => (nearestConnectedLane D gps ref b).toOption.join.map (·, gps)
  | .GetLaneById id => (getLanelet D id >>= midpointGps D).toOption.map (id, ·)
  | .SetDefaultStart _ gps => (nearestLane D gps).map (·, gps)

/-- The point for which the first of the calls to resolve the lane did so. -/
def firstPoint (D : MapData R) (calls : List (Call R)) (lane : LaneId) : Option (GPSCoordinate R) :=
  ((calls.filterMap (resolves D)).find? (fun r => r.1 = lane)).map Prod.snd

/-- The entry of the lane made for the point. -/
def laneAt (D : MapData R) (lane : LaneId) (gps : GPSCoordinate R) : Except Fault (LaneInfo R) := do
  let ll ← getLanelet D lane
  makeLaneInfo D ll gps

/-- The request of a call to the cache. -/
def request (D : MapData R) (r : LaneId × GPSCoordinate R) : LaneId × Except Fault (LaneInfo R) :=
  (r.1, laneAt D r.1 r.2)

theorem laneAt_id {D : MapData R} {lane : LaneId} {gps : GPSCoordinate R} {info : LaneInfo R}
    (made : laneAt D lane gps = .ok info) : info.laneId = lane := by
  obtain ⟨ll, found, built⟩ := bind_ok made
  rw [makeLaneInfo_id built, getLanelet_id found]

theorem cachedLane_eq (D : MapData R) (lane : LaneId) (gps : GPSCoordinate R) (m : LaneletMap R) :
    cachedLane D lane gps m =
      (fetch LaneInfo.laneId m.cache lane (laneAt D lane gps)).map (fun r => (r.1, { m with cache := r.2 })) := by
  unfold cachedLane laneAt
  cases fetch LaneInfo.laneId m.cache lane (getLanelet D lane >>= fun ll => makeLaneInfo D ll gps) <;> rfl

/-- A new map has served no calls. -/
theorem fresh_served (D : MapData R) : Reachable (server D) (.fresh : LaneletMap R) := ⟨[], .start rfl⟩

/-- The map after a call that returns or throws. -/
def Call.after (D : MapData R) (m : LaneletMap R) (call : Call R) : LaneletMap R :=
  match call.result D m with
  | .ok (_, after) => after
  | .error _ => m

theorem served_after {D : MapData R} {m m' : LaneletMap R} {call : Call R} {lanes : List (LaneInfo R)}
    (served : serve D m call = .ok (m', lanes)) : m' = call.after D m := by
  unfold serve at served
  unfold Call.after
  cases answered : call.result D m with
  | ok r =>
    rw [answered] at served
    cases served
    rfl
  | error fault =>
    rw [answered] at served
    cases fault <;> cases served
    rfl

/-- What the four calls do to the cache is one request, or nothing. -/
theorem after_cache (D : MapData R) (m : LaneletMap R) (call : Call R) :
    (call.after D m).cache =
      match resolves D call with
      | some r => remember LaneInfo.laneId m.cache (request D r)
      | none => m.cache := by
  cases call with
  | FindNearestLane gps =>
    cases selected : nearestLane D gps with
    | none => simp [Call.after, Call.result, resolves, findNearestLane, selected]
    | some id =>
      simp only [Call.after, Call.result, resolves, findNearestLane, selected, cachedLane_eq, Option.map_some, remember,
        request]
      cases fetch LaneInfo.laneId m.cache id (laneAt D id gps) <;> rfl
  | FindNearestConnectedLane gps ref b =>
    cases selected : nearestConnectedLane D gps ref b with
    | error e => simp only [Call.after, Call.result, resolves, findNearestConnectedLane, selected]; rfl
    | ok best =>
      cases best with
      | none => simp only [Call.after, Call.result, resolves, findNearestConnectedLane, selected]; rfl
      | some id =>
        simp only [Call.after, Call.result, resolves, findNearestConnectedLane, selected, cachedLane_eq, remember,
          request, Except.toOption, Option.join_some, Option.map_some, bind, Except.bind]
        cases fetch LaneInfo.laneId m.cache id (laneAt D id gps) <;> rfl
  | GetLaneById id =>
    cases held : lookup LaneInfo.laneId m.cache id with
    | some info =>
      simp only [Call.after, Call.result, getLaneById, held, resolves]
      cases getLanelet D id >>= midpointGps D with
      | error e => rfl
      | ok p => simp [Except.toOption, remember, request, fetch, held]
    | none =>
      simp only [Call.after, Call.result, getLaneById, held, resolves]
      cases found : getLanelet D id with
      | error e =>
        have absent : D.laneletLayer.any (fun ll => ll.id = id) = false := by
          rw [← Bool.not_eq_true, ← getLanelet_exists D id, found]
          simp
        simp only [absent]
        rfl
      | ok ll =>
        have present := (getLanelet_exists D id).mp ⟨ll, found⟩
        rw [if_pos present]
        cases middle : midpointGps D ll with
        | error e => simp [makeLaneById, found, middle, fetch, held, bind, Except.bind, Except.map, Except.toOption]
        | ok p =>
          simp only [makeLaneById, found, middle, fetch, held, bind, Except.bind, Except.toOption,
            Option.map_some, remember, request, laneAt]
          cases makeLaneInfo D ll p <;> rfl
  | SetDefaultStart name gps =>
    cases selected : nearestLane D gps with
    | none =>
      simp [Call.after, Call.result, resolves, setDefaultStart, findNearestLane, selected, bind, Except.bind, pure,
        Except.pure, Except.map]
    | some id =>
      simp only [Call.after, Call.result, resolves, setDefaultStart, findNearestLane, selected, cachedLane_eq,
        Option.map_some, remember, request]
      cases fetch LaneInfo.laneId m.cache id (laneAt D id gps) <;> rfl

/-- In every run the cache is the table of the requests of its calls. -/
theorem cache_run {D : MapData R} {past : History (LaneletMap R) (Call R) (LaneInfo R)} {m : LaneletMap R}
    (run : Runs (server D) past m) :
    m.cache = (((inputs past).filterMap (resolves D)).map (request D)).foldl (remember LaneInfo.laneId) [] := by
  refine run.invariant (I := fun past m => m.cache =
    (((inputs past).filterMap (resolves D)).map (request D)).foldl (remember LaneInfo.laneId) []) ?_ ?_
  · rintro _ rfl
    rfl
  · intro past m call lanes m' _ same stepped
    rw [served_after stepped, after_cache, inputs_cons, List.filterMap_append, List.map_append, List.foldl_append,
      ← same]
    cases resolved : resolves D call <;> simp [resolved]

/-- A call leaves the cache alone, or appends an entry that is made for a lanelet of
    the map and that the cache did not have. -/
theorem serve_cases {D : MapData R} {m m' : LaneletMap R} {call : Call R} {lanes : List (LaneInfo R)}
    (served : serve D m call = .ok (m', lanes)) : m'.cache = m.cache ∨
    ∃ lane gps info, laneAt D lane gps = .ok info ∧ lookup LaneInfo.laneId m.cache lane = none ∧
      m'.cache = m.cache ++ [info] := by
  rw [served_after served, after_cache]
  cases resolves D call with
  | none => exact .inl rfl
  | some asked =>
    rcases remember_cases LaneInfo.laneId m.cache (request D asked) with same | ⟨info, made, absent, longer⟩
    · exact .inl same
    · exact .inr ⟨asked.1, asked.2, info, made, absent, longer⟩

/-- Whatever calls a map has served, its entries are for lanelets of the layer. -/
theorem cache_mapped {D : MapData R} {m : LaneletMap R} (reach : Reachable (server D) m) :
    ∀ info ∈ m.cache, ∃ ll, getLanelet D info.laneId = .ok ll := by
  obtain ⟨past, run⟩ := reach
  refine run.invariant (I := fun _ m => ∀ info ∈ m.cache, ∃ ll, getLanelet D info.laneId = .ok ll) ?_ ?_
  · rintro _ rfl info member
    cases member
  · intro past m call lanes m' _ mapped stepped info member
    rcases serve_cases stepped with same | ⟨lane, gps, new, made, _, longer⟩
    · exact mapped info (same ▸ member)
    · rw [longer] at member
      rcases List.mem_append.mp member with old | last
      · exact mapped info old
      · rw [List.mem_singleton.mp last, laneAt_id made]
        obtain ⟨ll, found, _⟩ := bind_ok made
        exact ⟨ll, found⟩

/-- The loop over the segments assigns a point exactly when there is a segment. -/
theorem closest_none (target : LocalCoordinate R) (segments : List (LocalCoordinate R × LocalCoordinate R))
    (best : Option (R × LocalCoordinate R)) :
    segments.foldl (closerPoint target) best = none ↔ best = none ∧ segments = [] := by
  induction segments generalizing best with
  | nil => simp
  | cons segment rest ih =>
    rw [List.foldl_cons, ih]
    have assigned : closerPoint target best segment ≠ none := by
      cases best with
      | none => simp [closerPoint, below]
      | some b => unfold closerPoint; dsimp only; split <;> simp
    simp [assigned]

omit [Zero R] [Add R] [Sub R] [Mul R] [Div R] [NatCast R] [LT R] [DecidableLT R] [CMath R] in
theorem segments_nil (points : List (LocalCoordinate R)) : points.zip points.tail = [] ↔ points.length < 2 := by
  rw [← List.length_eq_zero_iff, List.length_zip, List.length_tail]
  omega

/-- A centreline with a segment has a point for every position, any other has none. -/
theorem projected_cases {D : MapData R} {lane : LaneId} {ll : Lanelet R} (found : getLanelet D lane = .ok ll)
    (gps : GPSCoordinate R) :
    (ll.centerline.length < 2 ∧ projectOntoLaneCenterline D gps lane = .error .UnassignedPoint) ∨
    (2 ≤ ll.centerline.length ∧ ∃ best,
      (ll.centerline.zip ll.centerline.tail).foldl (closerPoint (gpsToLocal D gps)) none = some best ∧
      projectOntoLaneCenterline D gps lane = .ok best.2) := by
  unfold projectOntoLaneCenterline
  rw [found]
  dsimp only [bind, Except.bind]
  cases kept : (ll.centerline.zip ll.centerline.tail).foldl (closerPoint (gpsToLocal D gps)) none with
  | none => exact .inl ⟨(segments_nil _).mp ((closest_none _ _ _).mp kept).2, rfl⟩
  | some best =>
    refine .inr ⟨?_, best, rfl, rfl⟩
    by_contra short
    rw [(segments_nil _).mpr (Nat.not_le.mp short)] at kept
    cases kept

/-- Whether a point can be projected onto a lane does not depend on the point. -/
theorem project_error {D : MapData R} {lane : LaneId} {gps : GPSCoordinate R} {e : Fault}
    (fails : projectOntoLaneCenterline D gps lane = .error e) (gps' : GPSCoordinate R) :
    projectOntoLaneCenterline D gps' lane = .error e := by
  cases found : getLanelet D lane with
  | error reason =>
    unfold projectOntoLaneCenterline at fails ⊢
    rw [found] at fails ⊢
    exact fails
  | ok ll =>
    rcases projected_cases found gps with ⟨short, failed⟩ | ⟨_, best, _, projected⟩
    · rcases projected_cases found gps' with ⟨_, failed'⟩ | ⟨long, _⟩
      · exact failed'.trans (failed.symm.trans fails)
      · omega
    · cases projected.symm.trans fails

/-- The entry of a lane is built around the projection of the point. -/
theorem laneAt_eq {D : MapData R} {lane : LaneId} {ll : Lanelet R} (found : getLanelet D lane = .ok ll)
    (gps : GPSCoordinate R) :
    laneAt D lane gps = (projectOntoLaneCenterline D gps lane).map (laneInfoAt D ll) := by
  have own := getLanelet_id found
  simp only [laneAt, makeLaneInfo, found, own, bind, Except.bind]
  cases projectOntoLaneCenterline D gps lane <;> rfl

theorem laneAt_error {D : MapData R} {lane : LaneId} {gps : GPSCoordinate R} {e : Fault}
    (fails : laneAt D lane gps = .error e) (gps' : GPSCoordinate R) : laneAt D lane gps' = .error e := by
  cases found : getLanelet D lane with
  | error reason =>
    simp only [laneAt, found, bind, Except.bind] at fails ⊢
    exact fails
  | ok ll =>
    rw [laneAt_eq found] at fails ⊢
    cases projected : projectOntoLaneCenterline D gps lane with
    | error reason =>
      rw [projected] at fails
      rw [project_error projected gps']
      exact fails
    | ok p => rw [projected] at fails; cases fails

/-- Entries of one lane differ where their projected points differ. -/
theorem laneAt_congr (D : MapData R) (lane : LaneId) (gps gps' : GPSCoordinate R) :
    laneAt D lane gps = laneAt D lane gps' ↔
      projectOntoLaneCenterline D gps lane = projectOntoLaneCenterline D gps' lane := by
  cases found : getLanelet D lane with
  | error e => simp [laneAt, projectOntoLaneCenterline, found, bind, Except.bind]
  | ok ll =>
    rw [laneAt_eq found, laneAt_eq found]
    constructor
    · intro same
      cases one : projectOntoLaneCenterline D gps lane with
      | error e => rw [project_error one gps']
      | ok p =>
        cases two : projectOntoLaneCenterline D gps' lane with
        | error e => rw [project_error two gps] at one; cases one
        | ok q =>
          rw [one, two] at same
          have point := congrArg LaneInfo.localPoint (Except.ok.inj same)
          exact congrArg Except.ok point
    · intro same
      rw [same]

/-- The cached entry of a lane is the one made for its first point. -/
theorem lookup_run {D : MapData R} {past : History (LaneletMap R) (Call R) (LaneInfo R)} {m : LaneletMap R}
    (run : Runs (server D) past m) (lane : LaneId) :
    lookup LaneInfo.laneId m.cache lane =
      (firstPoint D (inputs past) lane).bind fun p => (laneAt D lane p).toOption := by
  rw [cache_run run, lookup_foldl_remember]
  · unfold firstPoint
    induction (inputs past).filterMap (resolves D) with
    | nil => rfl
    | cons r rest ih =>
      by_cases same : r.1 = lane
      · subst same
        cases made : laneAt D r.1 r.2 with
        | ok info => simp [request, made, Except.toOption]
        | error e =>
          -- no later request makes what the first one could not
          have later : ∀ p, (laneAt D r.1 p).toOption = none := fun p => by rw [laneAt_error made p]; rfl
          simp [request, later, ih]
      · simpa [request, same] using ih
  · intro r member info made
    obtain ⟨asked, _, rfl⟩ := List.mem_map.mp member
    exact laneAt_id made

/-- What a search answers over any cache: the cached entry, or a new one. -/
theorem answer_eq (D : MapData R) (m : LaneletMap R) (q : Query R) :
    answer D m q =
      match selects D q with
      | .error e => .error e
      | .ok none => .ok none
      | .ok (some lane) =>
        match lookup LaneInfo.laneId m.cache lane with
        | some info => .ok (some info)
        | none => (laneAt D lane q.gps).map some := by
  cases q with
  | Nearest gps =>
    cases selected : nearestLane D gps with
    | none => simp only [answer, findNearestLane, selects, selected]; rfl
    | some lane =>
      simp only [answer, findNearestLane, selects, selected, cachedLane_eq, fetch, Query.gps]
      cases lookup LaneInfo.laneId m.cache lane with
      | some info => rfl
      | none => cases laneAt D lane gps <;> rfl
  | Connected gps ref b =>
    cases selected : nearestConnectedLane D gps ref b with
    | error e => simp only [answer, findNearestConnectedLane, selects, selected]; rfl
    | ok best =>
      cases best with
      | none => simp only [answer, findNearestConnectedLane, selects, selected]; rfl
      | some lane =>
        simp only [answer, findNearestConnectedLane, selects, selected, cachedLane_eq, fetch, Query.gps, bind,
          Except.bind]
        cases lookup LaneInfo.laneId m.cache lane with
        | some info => rfl
        | none => cases laneAt D lane gps <;> rfl

theorem answer_fresh (D : MapData R) (q : Query R) {lane : LaneId} (selected : selects D q = .ok (some lane)) :
    answer D LaneletMap.fresh q = (laneAt D lane q.gps).map some := by
  rw [answer_eq, selected]
  rfl

/-- After any calls a search answers as on a fresh map exactly when the point
    for which its lane was first resolved projects onto it like its own. -/
theorem answer_as_fresh_iff {D : MapData R} {past : History (LaneletMap R) (Call R) (LaneInfo R)} {m : LaneletMap R}
    (run : Runs (server D) past m) (q : Query R) : answer D m q = answer D LaneletMap.fresh q ↔
      ∀ lane, selects D q = .ok (some lane) → ∀ p, firstPoint D (inputs past) lane = some p →
        projectOntoLaneCenterline D p lane = projectOntoLaneCenterline D q.gps lane := by
  cases selected : selects D q with
  | error e => simp [answer_eq, selected]
  | ok best =>
    cases best with
    | none => simp [answer_eq, selected]
    | some lane =>
      have afresh := answer_fresh D q selected
      have cached := answer_eq D m q
      rw [selected] at cached
      simp only [lookup_run run] at cached
      rw [cached, afresh]
      simp only [Except.ok.injEq, Option.some.injEq, forall_eq']
      cases first : firstPoint D (inputs past) lane with
      | none => simp
      | some p =>
        simp only [Option.bind_some, Option.some.injEq, forall_eq']
        rw [← laneAt_congr]
        cases made : laneAt D lane p with
        | error e => simp [Except.toOption, laneAt_error made q.gps]
        | ok info =>
          simp only [Except.toOption]
          cases new : laneAt D lane q.gps with
          | error e => simp [laneAt_error new p] at made
          | ok info' => simp [Except.map]

end

section
attribute [local instance] streetMath

/-- A point on the first lane and one ten metres beside it. -/
def onLane : GPSCoordinate ℚ := ⟨35 + 688 / 1000, 139 + 69020 / 100000⟩
def besideLane : GPSCoordinate ℚ := ⟨35 + 68810 / 100000, 139 + 69020 / 100000⟩

/-- The first lane was found for the point beside it, from where it is projected to the same place. -/
theorem answer_as_fresh_on_street : ∃ past m, Runs (server street) past m ∧
    inputs past = [.FindNearestLane besideLane] ∧ m.cache ≠ [] ∧
    answer street m (.Nearest onLane) = answer street .fresh (.Nearest onLane) := by
  obtain ⟨past, m, run, found⟩ := exists_run (M := server street) (s := .fresh) [.FindNearestLane besideLane] rfl
    (fun past m => decide (inputs past = [.FindNearestLane besideLane] ∧ m.cache ≠ [])) (by decide +kernel)
  obtain ⟨calls, filled⟩ := of_decide_eq_true found
  refine ⟨past, m, run, calls, filled, (answer_as_fresh_iff run _).mpr fun lane selected p first => ?_⟩
  have own : nearestLane street onLane = some 101 := by decide +kernel
  obtain rfl : 101 = lane := Option.some.inj (own.symm.trans (Except.ok.inj selected))
  have beside : firstPoint street [.FindNearestLane besideLane] 101 = some besideLane := by decide +kernel
  rw [calls, beside] at first
  cases first
  decide +kernel

/-- Two points along the first lane: the second search returns the projection
    of the first point. -/
theorem second_point_answered_as_first : ∃ past m, Runs (server street) past m ∧
    answer street m (.Nearest ⟨35 + 688 / 1000, 139 + 69030 / 100000⟩) ≠
      answer street .fresh (.Nearest ⟨35 + 688 / 1000, 139 + 69030 / 100000⟩) := by
  obtain ⟨past, m, run, other⟩ := exists_run (M := server street) (s := .fresh)
    [.FindNearestLane ⟨35 + 688 / 1000, 139 + 69020 / 100000⟩] rfl
    (fun _ m => decide ((answer street m (.Nearest ⟨35 + 688 / 1000, 139 + 69030 / 100000⟩)).toOption ≠
      (answer street .fresh (.Nearest ⟨35 + 688 / 1000, 139 + 69030 / 100000⟩)).toOption)) (by decide +kernel)
  exact ⟨past, m, run, fun same => of_decide_eq_true other (congrArg Except.toOption same)⟩

end
end AutowareAgent.LaneCache
