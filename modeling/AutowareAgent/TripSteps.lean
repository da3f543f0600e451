import AutowareAgent.LaneCache
import AutowareAgent.Trips

/-!
What each operation of the trip controller can do. One lemma for each function
lists its outcomes with the lookups behind them, so that later proofs need not
unfold it.
-/
namespace AutowareAgent.TripSteps
open AutowareAgent.Memo AutowareAgent.Lanes AutowareAgent.LaneCache AutowareAgent.Trips

section
variable {R : Type}

/-- A later map of the same run: its cache has grown, its start is the same. -/
def Grown (m m' : LaneletMap R) : Prop := m.cache <+: m'.cache ∧ m'.defaultStart = m.defaultStart

theorem grown_refl (m : LaneletMap R) : Grown m m := ⟨List.prefix_rfl, rfl⟩

theorem grown_trans {m m' m'' : LaneletMap R} (first : Grown m m') (second : Grown m' m'') : Grown m m'' :=
  ⟨first.1.trans second.1, second.2.trans first.2⟩

/-- The cache holds the entry under its own identifier. -/
def Holds (m : LaneletMap R) (info : LaneInfo R) : Prop := lookup LaneInfo.laneId m.cache info.laneId = some info

theorem holds_grown {m m' : LaneletMap R} (grown : Grown m m') {info : LaneInfo R} (held : Holds m info) :
    Holds m' info :=
  lookup_grown _ grown.1 held

end

section
variable {R κ : Type} [Zero R] [Add R] [Sub R] [Mul R] [Div R] [NatCast R] [LT R] [DecidableLT R] [CMath R]

/-! ### Lookups -/

theorem cachedLane_spec {D : MapData R} {id : LaneId} {gps : GPSCoordinate R} {m m' : LaneletMap R}
    {info : LaneInfo R} (found : cachedLane D id gps m = .ok (info, m')) :
    Grown m m' ∧ Holds m' info ∧ info.laneId = id := by
  rw [cachedLane_eq] at found
  cases served : fetch LaneInfo.laneId m.cache id (laneAt D id gps) with
  | error e => rw [served] at found; cases found
  | ok r =>
    obtain ⟨a, after⟩ := r
    rw [served] at found
    cases found
    have held := fetch_held LaneInfo.laneId (fun _ made => laneAt_id made) served
    have own := key_of_lookup LaneInfo.laneId held
    exact ⟨⟨fetch_grows _ served, rfl⟩, by unfold Holds; rw [own]; exact held, own⟩

/-- A cached lane is found again, whatever the point. -/
theorem cachedLane_held {D : MapData R} {gps : GPSCoordinate R} {m : LaneletMap R} {info : LaneInfo R}
    (held : Holds m info) : cachedLane D info.laneId gps m = .ok (info, m) := by
  rw [cachedLane_eq]
  simp [fetch, show lookup LaneInfo.laneId m.cache info.laneId = some info from held, Except.map]

theorem findNearestLane_spec {D : MapData R} {gps : GPSCoordinate R} {m m' : LaneletMap R}
    {lane : Option (LaneInfo R)} (found : findNearestLane D gps m = .ok (lane, m')) :
    Grown m m' ∧ (∀ info ∈ lane, Holds m' info) ∧ lane.map LaneInfo.laneId = nearestLane D gps := by
  unfold findNearestLane at found
  split at found
  · rename_i selected
    cases found
    exact ⟨grown_refl m, by simp, by simp [selected]⟩
  · rename_i id selected
    obtain ⟨⟨info, after⟩, cached, rest⟩ := bind_ok found
    cases rest
    obtain ⟨grown, held, own⟩ := cachedLane_spec cached
    exact ⟨grown, by simpa using held, by simp [own, selected]⟩

theorem findNearestConnectedLane_spec {D : MapData R} {gps : GPSCoordinate R} {ref : LaneId} {b : Bool}
    {m m' : LaneletMap R} {lane : Option (LaneInfo R)}
    (found : findNearestConnectedLane D gps ref b m = .ok (lane, m')) :
    Grown m m' ∧ (∀ info ∈ lane, Holds m' info) ∧
      nearestConnectedLane D gps ref b = .ok (lane.map LaneInfo.laneId) := by
  unfold findNearestConnectedLane at found
  obtain ⟨best, selected, rest⟩ := bind_ok found
  cases best with
  | none =>
    cases rest
    exact ⟨grown_refl m, by simp, by simp [selected]⟩
  | some id =>
    obtain ⟨⟨info, after⟩, cached, last⟩ := bind_ok rest
    cases last
    obtain ⟨grown, held, own⟩ := cachedLane_spec cached
    exact ⟨grown, by simpa using held, by simp [own, selected]⟩

/-- A search that selects a cached lane finds its entry. -/
theorem findNearestConnectedLane_held {D : MapData R} {gps : GPSCoordinate R} {ref : LaneId} {b : Bool}
    {m : LaneletMap R} {info : LaneInfo R} (selected : nearestConnectedLane D gps ref b = .ok (some info.laneId))
    (held : Holds m info) : findNearestConnectedLane D gps ref b m = .ok (some info, m) := by
  simp [findNearestConnectedLane, selected, cachedLane_held held, bind, Except.bind, pure, Except.pure]

theorem getLaneById_spec {D : MapData R} {id : LaneId} {m m' : LaneletMap R} {lane : Option (LaneInfo R)}
    (found : getLaneById D id m = .ok (lane, m')) :
    Grown m m' ∧ (∀ info ∈ lane, Holds m' info ∧ info.laneId = id) := by
  unfold getLaneById at found
  split at found
  · rename_i info held
    cases found
    have own := key_of_lookup LaneInfo.laneId held
    refine ⟨grown_refl m, ?_⟩
    rintro _ ⟨⟩
    exact ⟨by unfold Holds; rw [own]; exact held, own⟩
  · split at found
    · obtain ⟨⟨info, after⟩, served, rest⟩ := bind_ok found
      cases rest
      have made : ∀ a, makeLaneById D id = .ok a → a.laneId = id := by
        intro a made
        obtain ⟨ll, layer, next⟩ := bind_ok made
        obtain ⟨p, _, built⟩ := bind_ok next
        rw [makeLaneInfo_id built, getLanelet_id layer]
      have held := fetch_held LaneInfo.laneId made served
      have own := key_of_lookup LaneInfo.laneId held
      refine ⟨⟨fetch_grows _ served, rfl⟩, ?_⟩
      rintro _ ⟨⟩
      exact ⟨by unfold Holds; rw [own]; exact held, own⟩
    · cases found
      exact ⟨grown_refl m, by simp⟩

theorem getLaneById_held {D : MapData R} {m : LaneletMap R} {info : LaneInfo R} (held : Holds m info) :
    getLaneById D info.laneId m = .ok (some info, m) := by
  simp [getLaneById, show lookup LaneInfo.laneId m.cache info.laneId = some info from held]

/-! ### The query -/

/-- How the start lane of a leg is resolved. -/
def StartsAt (D : MapData R) (c : TripController R κ) (fromGps : GPSCoordinate R) (lane : LaneId) : Prop :=
  match c.currentLeg with
  | .Pickup => nearestLane D fromGps = some lane
  | .Trip => stollId c.status.goalLaneletId = .ok lane

theorem findStartLane_spec {D : MapData R} {fromGps : GPSCoordinate R} {c : TripController R κ}
    {lane : Option (LaneInfo R)} {m : LaneletMap R} (found : c.findStartLane D fromGps = .ok (lane, m)) :
    Grown c.laneletMap m ∧ ∀ info ∈ lane, Holds m info ∧ StartsAt D c fromGps info.laneId := by
  unfold TripController.findStartLane at found
  split at found
  · rename_i leg
    obtain ⟨grown, held, selected⟩ := findNearestLane_spec found
    refine ⟨grown, fun info member => ⟨held info member, ?_⟩⟩
    cases member
    rw [StartsAt, leg]
    exact selected.symm
  · rename_i leg
    obtain ⟨id, read, rest⟩ := bind_ok found
    obtain ⟨grown, held⟩ := getLaneById_spec rest
    refine ⟨grown, fun info member => ⟨(held info member).1, ?_⟩⟩
    rw [StartsAt, leg, (held info member).2]
    exact read

/-- A leg has no lane to start from, or reaches no lane near its end. -/
def Lost (D : MapData R) (c : TripController R κ) (fromGps toGps : GPSCoordinate R) : Prop :=
  (∃ m, c.findStartLane D fromGps = .ok (none, m)) ∨
  ∃ lane, StartsAt D c fromGps lane ∧ nearestConnectedLane D toGps lane true = .ok none

/-- A leg fails, or its pipeline starts between two cached lanes. -/
theorem startQueryLeg_cases {D : MapData R} {now : Int} {fromGps toGps : GPSCoordinate R}
    {c c' : TripController R κ} (ran : c.startQueryLeg D now fromGps toGps = .ok c') :
    (∃ m reason, Grown c.laneletMap m ∧ Lost D c fromGps toGps ∧
      c' = { c with laneletMap := m }.failQuery now reason) ∨
    (∃ m fromLane toLane, Grown c.laneletMap m ∧ Holds m fromLane ∧ Holds m toLane ∧
      StartsAt D c fromGps fromLane.laneId ∧
      nearestConnectedLane D toGps fromLane.laneId true = .ok (some toLane.laneId) ∧
      c' = { c with laneletMap := m, status := legStatus D fromLane toLane toGps c.status }.transitionTo now
        .QueryPublishingInitialPose) := by
  unfold TripController.startQueryLeg at ran
  obtain ⟨⟨fromLane, m⟩, started, rest⟩ := bind_ok ran
  obtain ⟨grown, start⟩ := findStartLane_spec started
  cases fromLane with
  | none =>
    cases rest
    exact .inl ⟨m, _, grown, .inl ⟨m, started⟩, rfl⟩
  | some fromLane =>
    obtain ⟨⟨toLane, m'⟩, connected, rest⟩ := bind_ok rest
    obtain ⟨grown', held', selected⟩ := findNearestConnectedLane_spec connected
    cases toLane with
    | none =>
      obtain ⟨⟨near, m''⟩, nearest, rest⟩ := bind_ok rest
      cases rest
      exact .inl ⟨m'', _, grown_trans grown (grown_trans grown' (findNearestLane_spec nearest).1),
        .inr ⟨fromLane.laneId, (start fromLane rfl).2, selected⟩, rfl⟩
    | some toLane =>
      cases rest
      exact .inr ⟨m', fromLane, toLane, grown_trans grown grown', holds_grown grown' (start fromLane rfl).1,
        held' toLane rfl, (start fromLane rfl).2, by simpa using selected, rfl⟩

/-- A leg that is finished: the trip leg begins, or the query has succeeded. -/
theorem finishQueryLeg_cases {D : MapData R} {now : Int} {c c' : TripController R κ}
    (ran : c.finishQueryLeg D now = .ok c') :
    (c.currentLeg = .Pickup ∧ ∃ goalLaneId, stollId c.status.goalLaneletId = .ok goalLaneId ∧
      (c.bankPickupLeg goalLaneId).startQueryLeg D now c.queryStartGps c.queryGoalGps = .ok c') ∨
    (c.currentLeg = .Trip ∧
      c' = { c.bankTripLeg.callQueryCb with status := .initial }.transitionTo now .RoutesReady) := by
  unfold TripController.finishQueryLeg at ran
  split at ran
  · rename_i leg
    obtain ⟨goalLaneId, read, rest⟩ := bind_ok ran
    exact .inl ⟨leg, goalLaneId, read, rest⟩
  · rename_i leg
    cases ran
    exact .inr ⟨leg, rfl⟩

/-- A query is refused, or begins with its pickup leg. -/
theorem queryEta_cases {D : MapData R} {e : Env R} {start goal : GPSCoordinate R} {cb : Option κ}
    {c : TripController R κ} {r : TripController R κ × Bool} (ran : c.queryEta D e start goal cb = .ok r) :
    (r.2 = false ∧ ∃ reason, r.1 = c.refuseQuery reason cb) ∨
    (r.2 = true ∧ c.status.state = .Idle ∧ ∃ vehiclePose, getCurrentVehiclePose D e.tf = some vehiclePose ∧
      (c.openQuery start goal cb).startQueryLeg D e.now vehiclePose start = .ok r.1) := by
  unfold TripController.queryEta at ran
  split at ran
  · cases ran
    exact .inl ⟨rfl, _, rfl⟩
  · rename_i idle
    split at ran
    · cases ran
      exact .inl ⟨rfl, _, rfl⟩
    · rename_i vehiclePose located
      obtain ⟨c', started, rest⟩ := bind_ok ran
      cases rest
      exact .inr ⟨rfl, by simpa using idle, vehiclePose, located, started⟩

omit [Add R] [Sub R] [Mul R] [Div R] [NatCast R] [LT R] [DecidableLT R] [CMath R] in
/-- A tick that waits for the route goes on, or leaves the goal published again
    or not, and the query failed or not. -/
theorem tickQueryWaitingRoute_cases (T : TripTimings) (now : Int) (c : TripController R κ) :
    (c.currentRouteState = some .Set ∧
      c.tickQueryWaitingRoute T now = { c with etaReceived := false }.transitionTo now .QueryReadingEta) ∨
    ∃ c₁, c.currentRouteState ≠ some .Set ∧
      (c₁ = c ∨ c₁ = { c.doPublishGoal c.status.goalPose with lastPublishTime := now }) ∧
      (elapsedMs now c.stateEnteredAt < T.routeTimeoutMs ∧ c.tickQueryWaitingRoute T now = c₁ ∨
        T.routeTimeoutMs ≤ elapsedMs now c.stateEnteredAt ∧
          ∃ reason, c.tickQueryWaitingRoute T now = c₁.failQuery now reason) := by
  by_cases set : c.currentRouteState = some .Set
  · exact .inl ⟨set, by simp [TripController.tickQueryWaitingRoute, set]⟩
  · have waits : ∀ c₁ : TripController R κ,
        c₁ = (if 2000 ≤ elapsedMs now c.lastPublishTime then
          { c.doPublishGoal c.status.goalPose with lastPublishTime := now } else c) →
        elapsedMs now c.stateEnteredAt < T.routeTimeoutMs ∧ c.tickQueryWaitingRoute T now = c₁ ∨
          T.routeTimeoutMs ≤ elapsedMs now c.stateEnteredAt ∧
            ∃ reason, c.tickQueryWaitingRoute T now = c₁.failQuery now reason := by
      rintro _ published
      have entered : ∀ c₁ : TripController R κ, c₁ = (if 2000 ≤ elapsedMs now c.lastPublishTime then
          { c.doPublishGoal c.status.goalPose with lastPublishTime := now } else c) →
          c₁.stateEnteredAt = c.stateEnteredAt := by
        rintro _ rfl
        split <;> rfl
      unfold TripController.tickQueryWaitingRoute
      simp only [ne_eq, set, not_false_eq_true, if_true, ← published, entered _ published]
      split
      · rename_i late
        exact .inr ⟨late, _, rfl⟩
      · rename_i early
        exact .inl ⟨Int.not_le.mp early, rfl⟩
    refine .inr ⟨_, set, ?_, waits _ rfl⟩
    split
    · exact .inr rfl
    · exact .inl rfl

/-! ### The drive -/

/-- `startTrip` is refused, resolves no pickup lane, or accepts the trip. -/
theorem startTrip_cases {D : MapData R} {now : Int} {c : TripController R κ} {r : TripController R κ × Bool}
    (ran : c.startTrip D now = .ok r) :
    (r = ({ c with engagingForPickup := true, currentRouteState := none }, false)) ∨
    (∃ pickup trip m lane, c.pickupRoute = some pickup ∧ c.tripRoute = some trip ∧
      (c.status.state = .RoutesReady ∨ c.status.state = .Idle) ∧
      getLaneById D pickup.goalLaneId c.laneletMap = .ok (lane, m) ∧
      r = match lane with
        | none => ({ c with engagingForPickup := true, currentRouteState := none, laneletMap := m }.transitionTo
            now .Failed, false)
        | some lane => ({ c with engagingForPickup := true, currentRouteState := none, laneletMap := m }.acceptTrip
            now lane pickup, true)) := by
  unfold TripController.startTrip at ran
  simp only at ran
  split at ran
  · rename_i pickup trip banked held
    split at ran
    · cases ran
      exact .inl rfl
    · rename_i admitted
      obtain ⟨⟨lane, m⟩, found, rest⟩ := bind_ok ran
      refine .inr ⟨pickup, trip, m, lane, banked, held, ?_, found, ?_⟩
      · by_cases ready : c.status.state = .RoutesReady
        · exact .inl ready
        · exact .inr (by simpa [ready] using admitted)
      · cases lane <;> cases rest <;> rfl
  · cases ran
    exact .inl rfl

omit [Zero R] [Add R] [Sub R] [Mul R] [Div R] [NatCast R] [LT R] [DecidableLT R] [CMath R] in
theorem goToPickup_cases (c : TripController R κ) (now : Int) :
    c.goToPickup now = (c, false) ∨ (c.status.state = .WaitingForPickupStart ∧ c.goToPickup now =
      ({ c with currentRouteState := none, routeReceived := false }.transitionTo now .PublishingInitialPose, true)) := by
  unfold TripController.goToPickup
  split
  · exact .inl rfl
  · rename_i waiting
    exact .inr ⟨by simpa using waiting, rfl⟩

/-- `move` is refused, fails, or publishes the goal of the trip leg. -/
theorem move_cases {D : MapData R} {now : Int} {c : TripController R κ} {r : TripController R κ × Bool}
    (ran : c.move D now = .ok r) :
    (c.status.state ≠ .WaitingForMove ∧ r = (c, false)) ∨
    (c.status.state = .WaitingForMove ∧ c.tripRoute = none ∧ r = (c.transitionTo now .Failed, false)) ∨
    (∃ trip currentLaneId m lane, c.status.state = .WaitingForMove ∧ c.tripRoute = some trip ∧
      stollId c.status.startLaneletId = .ok currentLaneId ∧
      findNearestConnectedLane D trip.goalGps currentLaneId true c.laneletMap = .ok (lane, m) ∧
      r = match lane with
        | none => ({ c with laneletMap := m }.transitionTo now .Failed, false)
        | some lane => ({ c with laneletMap := m }.startTripLeg now lane trip, true)) := by
  unfold TripController.move at ran
  split at ran
  · rename_i wrong
    cases ran
    exact .inl ⟨wrong, rfl⟩
  · rename_i waiting
    have waiting : c.status.state = .WaitingForMove := by simpa using waiting
    split at ran
    · rename_i empty
      cases ran
      exact .inr (.inl ⟨waiting, empty, rfl⟩)
    · rename_i trip held
      obtain ⟨currentLaneId, read, rest⟩ := bind_ok ran
      obtain ⟨⟨lane, m⟩, found, rest⟩ := bind_ok rest
      refine .inr (.inr ⟨trip, currentLaneId, m, lane, waiting, held, read, found, ?_⟩)
      cases lane <;> cases rest <;> rfl

/-- A move command goes to one of the two operations, or is refused. -/
theorem handleMoveCommand_cases {D : MapData R} {now : Int} {c : TripController R κ}
    {r : TripController R κ × Bool} (ran : c.handleMoveCommand D now = .ok r) :
    (c.status.state = .WaitingForPickupStart ∧ r = c.goToPickup now) ∨
    (c.status.state = .WaitingForMove ∧ c.move D now = .ok r) ∨ r = (c, false) := by
  unfold TripController.handleMoveCommand at ran
  split at ran
  · rename_i waiting
    cases ran
    exact .inl ⟨waiting, rfl⟩
  · split at ran
    · rename_i waiting
      exact .inr (.inl ⟨waiting, ran⟩)
    · cases ran
      exact .inr (.inr rfl)

end
end AutowareAgent.TripSteps
