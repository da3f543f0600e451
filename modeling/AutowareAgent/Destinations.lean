import AutowareAgent.LaneReads
import AutowareAgent.QuotedTrips

/-!
Where the vehicle is sent. A goal is always the pose of a drivable lane of the map,
whose point was computed for a segment of its centreline. An initial pose is that of
a lane from which a leg of a query starts, or the home pose: the fixed start, or the
origin of the map where none is configured. Poses of statuses that were replaced
never leave the controller.
-/
namespace AutowareAgent.Destinations
open AutowareAgent.Machines AutowareAgent.Memo AutowareAgent.Numerals AutowareAgent.Lanes AutowareAgent.LaneCache
open AutowareAgent.LaneReads
open AutowareAgent.Trips AutowareAgent.TripSteps AutowareAgent.Strand AutowareAgent.Automaton AutowareAgent.Quotes
open AutowareAgent.QuotedTrips

section
variable {R κ : Type} [Zero R] [NatCast R]

/-- The pose at which the vehicle waits for trips. -/
def homePose (m : LaneletMap R) : Pose R :=
  match m.defaultStart with
  | some fixedStart => startPositionPose fixedStart
  | none => ⟨0, 0, 0, 0, ((1 : Nat) : R)⟩

/-- A drivable lanelet of the map has the identifier. -/
def OnRoad (D : MapData R) (id : LaneId) : Prop := ∃ ll ∈ D.laneletLayer, drivable ll = true ∧ ll.id = id

/-- What may be published: goals on lanes, and initial poses on lanes or at home. -/
def Allowed (lanes : Pose R → Prop) (home : Pose R) : Output R κ → Prop
  | .InitialPose pose => pose = home ∨ lanes pose
  | .Goal _ pose => lanes pose
  | _ => True

/-! ### What a controller may publish next -/

/-- The states in which the status has the start of a leg or of a trip. -/
def placed (s : TripState) : Bool := querying s || driving s

/-- The status holds a cached drivable lane. -/
def Stop (D : MapData R) (m : LaneletMap R) (id : String) (pose : Pose R) : Prop :=
  ∃ lane, Holds m lane ∧ OnRoad D lane.laneId ∧ (id, pose) = address lane

/-- The pose of a cached drivable lane. -/
def CachedPose (D : MapData R) (m : LaneletMap R) (pose : Pose R) : Prop := ∃ id, Stop D m id pose

/-- Wherever the controller may send the vehicle from here is a lane on a road, or home. -/
structure Headed (D : MapData R) (home : Pose R) (c : TripController R κ) : Prop where
  own : c.initPose = home
  fixed : homePose c.laneletMap = home
  start : placed c.status.state = true → Stop D c.laneletMap c.status.startLaneletId c.status.startPose
  goal : querying c.status.state = true → Stop D c.laneletMap c.status.goalLaneletId c.status.goalPose
  bank : ∀ route, c.pickupRoute = some route → OnRoad D route.goalLaneId
  out : ∀ o ∈ c.out, Allowed (CachedPose D c.laneletMap) home o

section
variable {D : MapData R} {home : Pose R} {now : Int} {c : TripController R κ}

/-- The map may have cached more lanes since. -/
theorem Headed.grown {m : LaneletMap R} (headed : Headed D home c) (grown : Grown c.laneletMap m) :
    Headed D home { c with laneletMap := m } := by
  have still : homePose m = homePose c.laneletMap := by rw [homePose, grown.2, homePose]
  have kept : ∀ {id : String} {pose : Pose R}, Stop D c.laneletMap id pose → Stop D m id pose := by
    rintro id pose ⟨lane, held, road, same⟩
    exact ⟨lane, holds_grown grown held, road, same⟩
  refine ⟨headed.own, still.trans headed.fixed, fun state => kept (headed.start state),
    fun state => kept (headed.goal state), headed.bank, fun o member => ?_⟩
  have allowed := headed.out o member
  cases o with
  | InitialPose pose => exact allowed.imp_right fun ⟨id, stop⟩ => ⟨id, kept stop⟩
  | Goal state pose =>
    obtain ⟨id, stop⟩ := allowed
    exact ⟨id, kept stop⟩
  | _ => trivial

theorem Headed.emit {o : Output R κ} (headed : Headed D home c)
    (allowed : Allowed (CachedPose D c.laneletMap) home o) : Headed D home (c.emit o) := by
  refine ⟨headed.own, headed.fixed, headed.start, headed.goal, headed.bank, fun o' member => ?_⟩
  rcases List.mem_append.mp member with before | last
  · exact headed.out o' before
  · rw [List.mem_singleton.mp last]
    exact allowed

/-- A state is entered with the stops that it relies on. -/
theorem headed_enter {next : TripState} (own : c.initPose = home) (fixed : homePose c.laneletMap = home)
    (start : placed next = true → Stop D c.laneletMap c.status.startLaneletId c.status.startPose)
    (goal : querying next = true → Stop D c.laneletMap c.status.goalLaneletId c.status.goalPose)
    (bank : ∀ route, c.pickupRoute = some route → OnRoad D route.goalLaneId)
    (out : ∀ o ∈ c.out, Allowed (CachedPose D c.laneletMap) home o) :
    Headed D home (c.transitionTo now next) := by
  refine ⟨?_, ?_, fun state => ?_, fun state => ?_, ?_, fun o member => ?_⟩
  · simpa using own
  · simpa using fixed
  · rw [transitionTo_state] at state
    simpa using start state
  · rw [transitionTo_state] at state
    simpa using goal state
  · simpa using bank
  · rw [transitionTo_laneletMap]
    rw [transitionTo_out] at member
    rcases List.mem_append.mp member with before | last
    · exact out o before
    · split at last
      · cases last
      · rw [List.mem_singleton.mp last]
        trivial

/-- A state of another kind relies on nothing. -/
theorem never {b : Bool} {P : Prop} (other : b = false) (own : b = true) : P :=
  absurd (other.symm.trans own) Bool.false_ne_true

/-- The next state relies on no stop that the present one does not rely on. -/
theorem Headed.next {next : TripState} (headed : Headed D home c)
    (start : placed next = true → placed c.status.state = true)
    (goal : querying next = true → querying c.status.state = true) : Headed D home (c.transitionTo now next) :=
  headed_enter headed.own headed.fixed (fun state => headed.start (start state)) (fun state => headed.goal (goal state))
    headed.bank
    headed.out

theorem Headed.callQueryCb (headed : Headed D home c) : Headed D home c.callQueryCb := by
  unfold TripController.callQueryCb
  split
  · have called := headed.emit (o := .QueryResult ‹_› c.queryResult) trivial
    exact ⟨called.own, called.fixed, called.start, called.goal, called.bank, called.out⟩
  · exact headed

/-- A status that is replaced sends the vehicle nowhere. -/
theorem Headed.failQuery {reason : String} (headed : Headed D home c) : Headed D home (c.failQuery now reason) := by
  have called : Headed D home (if c.queryCb.isSome then
      { c with queryResult := { c.queryResult with success := false, errorMessage := reason } }.callQueryCb else c) := by
    split
    · refine Headed.callQueryCb ?_
      exact ⟨headed.own, headed.fixed, headed.start, headed.goal, headed.bank, headed.out⟩
    · exact headed
  exact headed_enter called.own called.fixed nofun nofun nofun called.out

theorem Headed.republish {pose : Pose R} (headed : Headed D home c)
    (allowed : pose = home ∨ CachedPose D c.laneletMap pose) :
    Headed D home (c.republishInitialPose now pose) := by
  unfold TripController.republishInitialPose
  split
  · have sent := headed.emit (o := .InitialPose pose) allowed
    exact ⟨sent.own, sent.fixed, sent.start, sent.goal, sent.bank, sent.out⟩
  · exact headed

end

end

section
variable {R κ : Type} [Zero R] [Add R] [Sub R] [Mul R] [Div R] [NatCast R] [LT R] [DecidableLT R] [CMath R]

/-! ### Lanes that a search selects -/

section
variable {D : MapData R} {gps : GPSCoordinate R} {id : LaneId}

omit [Zero R] [Div R] [NatCast R] in
/-- A search selects a drivable candidate, or none. -/
theorem bestLane_drivable (target : LocalCoordinate R) (candidates : List (Lanelet R)) :
    bestLane D target candidates = InvalId ∨
      ∃ ll ∈ candidates, drivable ll = true ∧ ll.id = bestLane D target candidates := by
  have skips : bestLane D target candidates = bestLane D target (candidates.filter drivable) := by
    unfold bestLane
    rw [List.foldl_filter]
    congr
    funext best ll
    by_cases own : drivable ll = true <;> simp [nearerLane, own]
  rw [skips]
  refine (bestLane_mem target (candidates.filter drivable)).imp_right ?_
  rintro ⟨ll, member, same⟩
  obtain ⟨inside, own⟩ := List.mem_filter.mp member
  exact ⟨ll, inside, own, same⟩

omit [Zero R] [Div R] [NatCast R] in
theorem onRoad_of_best {candidates : List (Lanelet R)} {target : LocalCoordinate R}
    (within : candidates ⊆ D.laneletLayer) (valid : bestLane D target candidates ≠ InvalId) :
    OnRoad D (bestLane D target candidates) := by
  obtain ⟨ll, member, own, same⟩ := (bestLane_drivable (D := D) target candidates).resolve_left valid
  exact ⟨ll, within member, own, same⟩

omit [Div R] [NatCast R] in
theorem nearestLane_onRoad (selected : nearestLane D gps = some id) : OnRoad D id := by
  unfold nearestLane at selected
  split at selected
  · cases selected
  · dsimp only at selected
    by_cases valid : bestLane D (gpsToLocal D gps) D.laneletLayer = InvalId
    · rw [if_pos valid] at selected
      cases selected
    · rw [if_neg valid] at selected
      cases selected
      exact onRoad_of_best (List.Subset.refl _) valid

omit [Div R] in
theorem nearestConnectedLane_onRoad {ref : LaneId} (bounded : Bounded D)
    (selected : nearestConnectedLane D gps ref true = .ok (some id)) : OnRoad D id := by
  unfold nearestConnectedLane at selected
  split at selected
  · cases selected
  · obtain ⟨reference, found, rest⟩ := bind_ok selected
    have within : connectedLanes D reference true ⊆ D.laneletLayer := by
      intro ll member
      exact bounded reference (getLanelet_mem found) _ ll member
    dsimp only at rest
    by_cases valid : bestLane D (gpsToLocal D gps) (connectedLanes D reference true) = InvalId
    · rw [if_pos valid] at rest
      cases rest
    · rw [if_neg valid] at rest
      cases rest
      exact onRoad_of_best within valid

end

/-! ### The query -/

section
variable {D : MapData R} {home : Pose R} {T : TripTimings} {e : Env R} {now : Int} {c c' : TripController R κ}

theorem headed_startQueryLeg {fromGps toGps : GPSCoordinate R} (bounded : Bounded D) (headed : Headed D home c)
    (starts : ∀ lane, StartsAt D c fromGps lane → OnRoad D lane)
    (ran : c.startQueryLeg D now fromGps toGps = .ok c') : Headed D home c' := by
  rcases startQueryLeg_cases ran with ⟨m, reason, grown, _, rfl⟩ |
    ⟨m, fromLane, toLane, grown, held, held', start, connects, rfl⟩
  · exact (headed.grown grown).failQuery
  · have first := headed.grown grown
    exact headed_enter first.own first.fixed (fun _ => ⟨fromLane, held, starts _ start, rfl⟩)
      (fun _ => ⟨toLane, held', nearestConnectedLane_onRoad bounded connects, rfl⟩) first.bank first.out

theorem headed_finishQueryLeg (bounded : Bounded D) (headed : Headed D home c) (state : querying c.status.state = true)
    (ran : c.finishQueryLeg D now = .ok c') : Headed D home c' := by
  rcases finishQueryLeg_cases ran with ⟨_, goalLaneId, read, started⟩ | ⟨_, rfl⟩
  · -- the trip leg starts where the pickup leg ends
    obtain ⟨lane, _, road, address⟩ := headed.goal state
    have own : ∀ id, stollId c.status.goalLaneletId = .ok id → OnRoad D id := by
      intro id read
      rw [show c.status.goalLaneletId = toString64 lane.laneId from congrArg Prod.fst address, stollId,
        stoll_toString64] at read
      cases read
      exact road
    have banked : Headed D home (c.bankPickupLeg goalLaneId) := by
      refine ⟨headed.own, headed.fixed, headed.start, headed.goal, ?_, headed.out⟩
      rintro _ ⟨⟩
      exact own goalLaneId read
    exact headed_startQueryLeg bounded banked (fun id starts => own id starts) started
  · have banked : Headed D home c.bankTripLeg := ⟨headed.own, headed.fixed, headed.start, headed.goal, headed.bank, headed.out⟩
    have called := banked.callQueryCb
    exact headed_enter called.own called.fixed (never rfl) (never rfl) called.bank called.out

theorem headed_queryEta {start goal : GPSCoordinate R} {cb : Option κ} {r : TripController R κ × Bool}
    (bounded : Bounded D) (headed : Headed D home c) (ran : c.queryEta D e start goal cb = .ok r) : Headed D home r.1 := by
  rcases queryEta_cases ran with ⟨_, reason, refused⟩ | ⟨_, _, vehiclePose, _, started⟩
  · rw [refused]
    cases cb with
    | none => exact headed
    | some cb => exact headed.emit trivial
  · have opened : Headed D home (c.openQuery start goal cb) :=
      ⟨headed.own, headed.fixed, headed.start, headed.goal, nofun, headed.out⟩
    exact headed_startQueryLeg bounded opened (fun lane nearest => nearestLane_onRoad nearest) started

/-! ### The drive -/

theorem headed_startTrip {r : TripController R κ × Bool} (headed : Headed D home c) (ran : c.startTrip D now = .ok r) :
    Headed D home r.1 := by
  have asked : Headed D home { c with engagingForPickup := true, currentRouteState := none } :=
    ⟨headed.own, headed.fixed, headed.start, headed.goal, headed.bank, headed.out⟩
  rcases startTrip_cases ran with rfl | ⟨pickup, _, m, lane, banked, _, _, found, rfl⟩
  · exact asked
  · obtain ⟨grown, own⟩ := getLaneById_spec found
    have first := asked.grown grown
    cases lane with
    | none => exact first.next nofun nofun
    | some lane =>
      obtain ⟨held, same⟩ := own lane rfl
      refine headed_enter first.own first.fixed (fun _ => ⟨lane, held, ?_, rfl⟩) nofun first.bank first.out
      rw [same]
      exact headed.bank pickup banked

omit [Add R] [Sub R] [Mul R] [Div R] [LT R] [DecidableLT R] [CMath R] in
theorem headed_goToPickup (headed : Headed D home c) : Headed D home (c.goToPickup now).1 := by
  rcases goToPickup_cases c now with same | ⟨waiting, went⟩
  · rw [same]
    exact headed
  · have asked : Headed D home { c with currentRouteState := none, routeReceived := false } :=
      ⟨headed.own, headed.fixed, headed.start, headed.goal, headed.bank, headed.out⟩
    rw [went]
    exact asked.next (fun _ => by simp [waiting, placed, driving]) (never rfl)

theorem headed_move {r : TripController R κ × Bool} (bounded : Bounded D) (headed : Headed D home c)
    (ran : c.move D now = .ok r) : Headed D home r.1 := by
  rcases move_cases ran with ⟨_, rfl⟩ | ⟨_, _, rfl⟩ | ⟨trip, _, m, lane, waiting, _, _, found, rfl⟩
  · exact headed
  · exact headed.next nofun nofun
  · obtain ⟨grown, own, selected⟩ := findNearestConnectedLane_spec found
    have first := headed.grown grown
    cases lane with
    | none => exact first.next nofun nofun
    | some lane =>
      have stop : CachedPose D m (lanePose lane) :=
        ⟨_, lane, own lane rfl, nearestConnectedLane_onRoad bounded selected, rfl⟩
      have sent := first.emit (o := .Goal c.status.state (lanePose lane)) stop
      refine headed_enter sent.own sent.fixed (fun _ => ?_) nofun sent.bank sent.out
      exact first.start (by simp [waiting, placed, driving])

omit [Add R] [Sub R] [Mul R] [Div R] [LT R] [DecidableLT R] [CMath R] in
theorem headed_cancel (headed : Headed D home c) : Headed D home (c.cancel now) := by
  have reset : Headed D home { c with
      querying := false
      queryCb := none
      pickupRoute := none
      tripRoute := none
      status := .initial
      routeReceived := false
      engagingForPickup := false
      currentRouteState := none } := ⟨headed.own, headed.fixed, nofun, nofun, nofun, headed.out⟩
  unfold TripController.cancel
  dsimp only
  split
  · rename_i fixedStart start
    have own : startPositionPose fixedStart = home := by rw [← headed.fixed, homePose, start]
    exact (reset.emit (o := .InitialPose (startPositionPose fixedStart)) (.inl own)).next nofun nofun
  · exact reset.next nofun nofun

omit [Add R] [Sub R] [Mul R] [Div R] [LT R] [DecidableLT R] [CMath R] in
theorem headed_onEngaged (headed : Headed D home c) : Headed D home (c.onEngaged now) := by
  unfold TripController.onEngaged
  split
  · rename_i engaging
    have way : placed c.status.state = true := by simp [engaging, placed, driving]
    split
    · exact headed.next (fun _ => way) (never rfl)
    · exact headed.next (fun _ => way) (never rfl)
  · exact headed

/-! ### Ticks -/

theorem headed_tickQueryReadingEta (bounded : Bounded D) (headed : Headed D home c)
    (state : querying c.status.state = true) (ran : c.tickQueryReadingEta D T now = .ok c') : Headed D home c' := by
  unfold TripController.tickQueryReadingEta at ran
  split at ran
  · exact headed_finishQueryLeg bounded headed state ran
  · split at ran
    · have settled : Headed D home { c with etaDistanceM := 0, etaSeconds := 0 } :=
        ⟨headed.own, headed.fixed, headed.start, headed.goal, headed.bank, headed.out⟩
      exact headed_finishQueryLeg bounded settled state ran
    · cases ran
      exact headed

omit [Add R] [Sub R] [Mul R] [Div R] [LT R] [DecidableLT R] [CMath R] in
theorem headed_tickQueryWaitingRoute (headed : Headed D home c) (state : c.status.state = .QueryWaitingRoute) :
    Headed D home (c.tickQueryWaitingRoute T now) := by
  have query : querying c.status.state = true := by simp [state, querying]
  have start : placed c.status.state = true := by simp [placed, query]
  rcases tickQueryWaitingRoute_cases T now c with ⟨_, set⟩ | ⟨c₁, _, again, ended⟩
  · have asked : Headed D home { c with etaReceived := false } :=
      ⟨headed.own, headed.fixed, headed.start, headed.goal, headed.bank, headed.out⟩
    rw [set]
    exact asked.next (fun _ => start) (fun _ => query)
  · have sent : Headed D home c₁ := by
      rcases again with rfl | rfl
      · exact headed
      · have sent := headed.emit (o := .Goal c.status.state c.status.goalPose) ⟨_, headed.goal query⟩
        exact ⟨sent.own, sent.fixed, sent.start, sent.goal, sent.bank, sent.out⟩
    rcases ended with ⟨_, same⟩ | ⟨_, reason, failed⟩
    · rw [same]
      exact sent
    · rw [failed]
      exact sent.failQuery

omit [Add R] [Sub R] [Mul R] [Div R] [LT R] [DecidableLT R] [CMath R] in
theorem headed_tickDriving {arrived : Output R κ} {next : TripState} (headed : Headed D home c)
    (way : driving c.status.state = true) (onward : querying next = false)
    (arrives : ∀ stops, Allowed stops home arrived) : Headed D home (c.tickDriving now arrived next) := by
  rcases tickDriving_cases c now arrived next with same | ⟨_, there⟩
  · rw [same]
    exact headed
  · have sent := headed.emit (arrives _)
    have asked : Headed D home { c.emit arrived with currentRouteState := none } :=
      ⟨sent.own, sent.fixed, sent.start, sent.goal, sent.bank, sent.out⟩
    rw [there]
    refine asked.next (fun _ => ?_) (fun query => ?_)
    · change placed c.status.state = true
      simp [placed, way]
    · rw [onward] at query
      cases query

theorem headed_tick (bounded : Bounded D) (headed : Headed D home c) (ran : c.tick D T e = .ok c') :
    Headed D home c' := by
  have atHome : c.initPose = home ∨ CachedPose D c.laneletMap c.initPose := .inl headed.own
  have atStart : placed c.status.state = true → CachedPose D c.laneletMap c.status.startPose :=
    fun state => ⟨_, headed.start state⟩
  unfold TripController.tick at ran
  cases state : c.status.state <;> rw [state] at ran atStart <;> simp only [Except.ok.injEq] at ran
  case QueryReadingEta => exact headed_tickQueryReadingEta bounded headed (by simp [state, querying]) ran
  all_goals subst ran
  case Idle | RoutesReady | WaitingForPickupStart | WaitingForMove | Completed | Cancelled | Failed => exact headed
  case InitializingInMap =>
    unfold TripController.tickInitializingInMap
    split
    · exact headed.republish atHome
    · exact headed.next (never rfl) (never rfl)
  case QueryPublishingInitialPose =>
    have sent := headed.emit (o := .InitialPose c.status.startPose) (.inr (atStart rfl))
    refine sent.next (fun _ => ?_) (fun _ => ?_)
    · exact congrArg placed state
    · exact congrArg querying state
  case QueryWaitingLocalisation =>
    unfold TripController.tickQueryWaitingLocalisation
    dsimp only
    split
    · have sent : Headed D home (c.republishInitialPose e.now c.status.startPose) :=
        headed.republish (.inr (atStart rfl))
      split
      · exact sent.failQuery
      · exact sent
    · exact headed.next (fun _ => congrArg placed state) (fun _ => congrArg querying state)
  case QueryPublishingGoal =>
    have sent := headed.emit (o := .Goal c.status.state c.status.goalPose) ⟨_, headed.goal (congrArg querying state)⟩
    have asked : Headed D home { c.doPublishGoal c.status.goalPose with routeReceived := false, currentRouteState := none } :=
      ⟨sent.own, sent.fixed, sent.start, sent.goal, sent.bank, sent.out⟩
    exact asked.next (fun _ => congrArg placed state) (fun _ => congrArg querying state)
  case QueryWaitingRoute => exact headed_tickQueryWaitingRoute headed state
  case PublishingInitialPose =>
    have sent := headed.emit (o := .InitialPose c.initPose) atHome
    exact sent.next (fun _ => congrArg placed state) (never rfl)
  case WaitingLocalisation =>
    unfold TripController.tickWaitingLocalisation
    split
    · exact headed.republish atHome
    · have sent := headed.emit (o := .Goal c.status.state c.status.startPose) (atStart rfl)
      exact sent.next (fun _ => congrArg placed state) (never rfl)
  case Engaging =>
    unfold TripController.tickEngaging
    split
    · have asked : Headed D home (c.doEngage e) := by
        rcases doEngage_cases e c with same | asked
        · rw [same]
          exact headed
        · rw [asked]
          exact headed.emit trivial
      exact ⟨asked.own, asked.fixed, asked.start, asked.goal, asked.bank, asked.out⟩
    · exact headed
  case DrivingToPickup => exact headed_tickDriving headed (congrArg driving state) rfl fun _ => trivial
  case Running => exact headed_tickDriving headed (congrArg driving state) rfl fun _ => trivial

/-! ### Operations and runs -/

theorem headed_apply {op : Operation R κ} (bounded : Bounded D) (headed : Headed D home c)
    (ran : op.apply D T e c = .ok c') : Headed D home c' := by
  cases op with
  | QueryEta start goal cb =>
    obtain ⟨r, queried, rfl⟩ := map_ok ran
    exact (headed_queryEta bounded headed queried).emit trivial
  | StartTrip =>
    obtain ⟨r, started, rfl⟩ := map_ok ran
    exact (headed_startTrip headed started).emit trivial
  | GoToPickup =>
    cases ran
    exact (headed_goToPickup headed).emit trivial
  | Move =>
    obtain ⟨r, moved, rfl⟩ := map_ok ran
    exact (headed_move bounded headed moved).emit trivial
  | HandleMoveCommand =>
    obtain ⟨r, handled, rfl⟩ := map_ok ran
    rcases handleMoveCommand_cases handled with ⟨_, rfl⟩ | ⟨_, moved⟩ | rfl
    · exact (headed_goToPickup headed).emit trivial
    · exact (headed_move bounded headed moved).emit trivial
    · exact headed.emit trivial
  | Cancel =>
    cases ran
    exact headed_cancel headed
  | Tick => exact headed_tick bounded headed ran
  | Eta distanceM timeSeconds =>
    cases ran
    unfold TripController.injectEta
    split
    · exact headed
    · exact ⟨headed.own, headed.fixed, headed.start, headed.goal, headed.bank, headed.out⟩
  | SetCurrentGps _ | LocState _ | RouteState _ | ModeState _ | Route _ =>
    cases ran
    exact ⟨headed.own, headed.fixed, headed.start, headed.goal, headed.bank, headed.out⟩

variable {w w' : World R κ} {os : List (Output R κ)}

/-- A step publishes what the controller that it leaves may have published. -/
theorem headed_step {i : Input R κ} (bounded : Bounded D) (headed : Headed D home w.ctrl)
    (stepped : step D T w i = .ok (w', os)) : Headed D home w'.ctrl ∧
      ∀ o ∈ os, Allowed (CachedPose D w'.ctrl.laneletMap) home o := by
  have settled : ∀ {c : TripController R κ}, Headed D home c → Headed D home c.settled := fun h =>
    ⟨h.own, h.fixed, h.start, h.goal, h.bank, nofun⟩
  cases i with
  | Handle e op =>
    obtain ⟨c, applied, rfl, ended⟩ := handle_cases stepped
    have after := headed_apply bounded headed applied
    rw [ended]
    split <;> exact ⟨settled after, after.out⟩
  | ModeResponse seq success =>
    rcases modeResponse_cases stepped with ⟨_, rfl, rfl⟩ | ⟨_, _, rfl, rfl⟩ | ⟨_, _, rfl, rfl⟩
    · exact ⟨headed, nofun⟩
    · exact ⟨headed, nofun⟩
    · refine ⟨headed, fun o member => ?_⟩
      rw [List.mem_singleton.mp member]
      trivial
  | EngageResponse seq code =>
    obtain ⟨rfl, same, _⟩ := engageResponse_cases stepped
    rw [same]
    exact ⟨headed, nofun⟩
  | Acknowledge e seq =>
    rcases acknowledge_cases stepped with ⟨_, rfl, rfl⟩ | ⟨_, rfl, rfl⟩
    · exact ⟨headed, nofun⟩
    · have after : Headed D home (w.ctrl.onEngaged e.now) := headed_onEngaged headed
      exact ⟨settled after, after.out⟩

omit [Add R] [Sub R] [Mul R] [Div R] [LT R] [DecidableLT R] [CMath R] in
theorem headed_initial (m : LaneletMap R) (now : Int) : Headed D (homePose m) (initialWorld (κ := κ) m now).ctrl := by
  unfold initialWorld TripController.initializeInMap
  dsimp only
  split
  · rename_i none
    refine ⟨?_, rfl, nofun, nofun, nofun, nofun⟩
    rw [homePose, show m.defaultStart = .none from none]
    rfl
  · rename_i fixedStart start
    refine ⟨?_, ?_, ?_, ?_, ?_, nofun⟩
    · rw [homePose, show m.defaultStart = some fixedStart from start]
      simp [TripController.settled, TripController.doPublishInitialPose, TripController.emit]
    · simp [TripController.settled, TripController.doPublishInitialPose, TripController.emit,
        TripController.constructed]
    · intro state
      simp [TripController.settled, placed, querying, driving] at state
    · intro state
      simp [TripController.settled, querying] at state
    · simp [TripController.settled, TripController.doPublishInitialPose, TripController.emit,
        TripController.constructed]

/-- The pose is that of a drivable lane, at a point of its own centreline. -/
def LanePose (D : MapData R) (pose : Pose R) : Prop :=
  ∃ lane, OnRoad D lane.laneId ∧ OnItsLane D lane ∧ pose = lanePose lane

variable {past : History (World R κ) (Input R κ) (Output R κ)}

/-- What the controller has cached has points of its own lanes. -/
theorem lanePose_of_cached (run : Runs (machine D T) past w) {pose : Pose R}
    (cached : CachedPose D w.ctrl.laneletMap pose) : LanePose D pose := by
  obtain ⟨_, lane, held, road, same⟩ := cached
  exact ⟨lane, road, cache_onItsLane (run_serves run) lane (List.mem_of_find?_eq_some held), congrArg Prod.snd same⟩

/-- In every run over a bounded map, which ends where a point is read that nothing
    assigned, a goal that is published is the pose of a
    drivable lane of the map, at a point of its centreline, and an initial pose is
    such a pose or the home pose, which is one and the same for the whole run. -/
theorem sent_along_roads (bounded : Bounded D) (run : Runs (machine D T) past w) :
    Along (fun _ m => ∀ o ∈ m.outputs, Allowed (LanePose D) (homePose w.ctrl.laneletMap) o) past := by
  have kept : ∃ home, Headed D home w.ctrl ∧
      Along (fun _ m => ∀ o ∈ m.outputs, Allowed (LanePose D) home o) past := by
    refine run.invariant (I := fun past w => ∃ home, Headed D home w.ctrl ∧
      Along (fun _ m => ∀ o ∈ m.outputs, Allowed (LanePose D) home o) past) ?_ ?_
    · rintro _ ⟨m, now, _, rfl⟩
      exact ⟨_, headed_initial _ now, trivial⟩
    · rintro past w i os w' earlier ⟨home, headed, along⟩ stepped
      obtain ⟨after, sent⟩ := headed_step bounded headed stepped
      have run' : Runs (machine D T) (⟨w, i, os, w'⟩ :: past) w' := earlier.step stepped
      refine ⟨home, after, fun o member => ?_, along⟩
      have allowed := sent o member
      cases o with
      | InitialPose pose => exact allowed.imp_right (lanePose_of_cached run')
      | Goal state pose => exact lanePose_of_cached run' allowed
      | _ => trivial
  obtain ⟨home, headed, along⟩ := kept
  rw [headed.fixed]
  exact along

end

end

section
attribute [local instance] streetMath

/-- A whole trip on the street, from its query to its drop-off. -/
theorem sent_along_roads_on_street : ∃ past w, Runs (machine street {} : Machine (World ℚ Unit) _ _ _) past w ∧
    w.ctrl.status.state = .Completed ∧
    Along (fun _ m => ∀ o ∈ m.outputs, Allowed (LanePose street) (homePose w.ctrl.laneletMap) o) past := by
  obtain ⟨past, w, run, done⟩ := completed_on_street
  exact ⟨past, w, run, done, sent_along_roads street_bounded run⟩

end
end AutowareAgent.Destinations
