import AutowareAgent.Automaton

/-!
What a trip is quoted is what it drives to. A query resolves the goals of its
two legs and publishes them; the drive resolves its lanes again, by the held
routes and the identifiers that the status keeps as texts. `Booked` ties the
held routes, the status, the result and the lane cache to the two lanes that
the query published.
-/
namespace AutowareAgent.Quotes
open AutowareAgent.Machines AutowareAgent.Memo AutowareAgent.Numerals AutowareAgent.Lanes AutowareAgent.LaneCache
open AutowareAgent.Trips AutowareAgent.TripSteps AutowareAgent.Strand AutowareAgent.Automaton

/-- The fields that carry a quote. -/
structure Booking (R : Type) where
  state : TripState
  startLaneletId : String
  startPose : Pose R
  goalLaneletId : String
  goalPose : Pose R
  leg : QueryLeg
  goalGps : GPSCoordinate R
  result : EtaQueryResult R
  pickupRoute : Option (HeldRoute R)
  tripRoute : Option (HeldRoute R)
  laneletMap : LaneletMap R

/-- The states of a query that has resolved the goal of its leg. -/
def querying : TripState → Bool
  | .QueryPublishingInitialPose | .QueryWaitingLocalisation | .QueryPublishingGoal | .QueryWaitingRoute
  | .QueryReadingEta => true
  | _ => false

/-- The states of a query that has published the goal of its leg. -/
def published : TripState → Bool
  | .QueryWaitingRoute | .QueryReadingEta => true
  | _ => false

/-- The states of an accepted trip. -/
def driving : TripState → Bool
  | .WaitingForPickupStart | .PublishingInitialPose | .WaitingLocalisation | .Engaging | .DrivingToPickup
  | .WaitingForMove | .Running | .Completed => true
  | _ => false

theorem querying_of_driving {s : TripState} (way : driving s = true) : querying s = false := by
  cases s <;> first | rfl | cases way

section
variable {R κ : Type}

def bookingOf (c : TripController R κ) : Booking R where
  state := c.status.state
  startLaneletId := c.status.startLaneletId
  startPose := c.status.startPose
  goalLaneletId := c.status.goalLaneletId
  goalPose := c.status.goalPose
  leg := c.currentLeg
  goalGps := c.queryGoalGps
  result := c.queryResult
  pickupRoute := c.pickupRoute
  tripRoute := c.tripRoute
  laneletMap := c.laneletMap

@[simp] theorem bookingOf_transitionTo (c : TripController R κ) (now : Int) (next : TripState) :
    bookingOf (c.transitionTo now next) = { bookingOf c with state := next } := by
  simp [bookingOf]

@[simp] theorem bookingOf_republish (c : TripController R κ) (now : Int) (pose : Pose R) :
    bookingOf (c.republishInitialPose now pose) = bookingOf c := by
  unfold TripController.republishInitialPose
  split <;> rfl

/-- The identifier of a lane, as texts have it, and its pose. -/
def address (lane : LaneInfo R) : String × Pose R := (toString64 lane.laneId, lanePose lane)

/-- The goal that a tick publishes for a leg of a query. -/
def queryGoal (leg : QueryLeg) (m : Moment (World R κ) (Input R κ) (Output R κ)) : Option (String × Pose R) :=
  if eventOf m.pre m.input = .Tick ∧ m.pre.ctrl.status.state = .QueryPublishingGoal ∧ m.pre.ctrl.currentLeg = leg then
    m.outputs.findSome? fun o => match o with
      | .Goal .QueryPublishingGoal pose => some (m.pre.ctrl.status.goalLaneletId, pose)
      | _ => none
  else none

/-- The goal that was published last for a leg of a query. -/
def quotedGoal (past : History (World R κ) (Input R κ) (Output R κ)) (leg : QueryLeg) : Option (String × Pose R) :=
  past.findSome? (queryGoal leg)

/-- The goals of the drive are the goals that the query published, and their
    lanes are those of its result. -/
def AsQuoted (past : History (World R κ) (Input R κ) (Output R κ))
    (m : Moment (World R κ) (Input R κ) (Output R κ)) : Prop :=
  (∀ pose, .Goal .WaitingLocalisation pose ∈ m.outputs →
    quotedGoal past .Pickup = some (m.pre.ctrl.status.startLaneletId, pose) ∧
    m.pre.ctrl.queryResult.success = true ∧
    m.pre.ctrl.queryResult.pickupLeg.goalLaneId = m.pre.ctrl.status.startLaneletId) ∧
  ∀ pose, .Goal .WaitingForMove pose ∈ m.outputs →
    quotedGoal past .Trip = some (m.post.ctrl.status.goalLaneletId, pose) ∧
    m.pre.ctrl.queryResult.success = true ∧
    m.pre.ctrl.queryResult.tripLeg.goalLaneId = m.post.ctrl.status.goalLaneletId

/-! ### Bookings -/

/-- The status holds the lane as the goal of a leg. -/
structure GoesTo (b : Booking R) (lane : LaneInfo R) : Prop where
  held : Holds b.laneletMap lane
  goal : (b.goalLaneletId, b.goalPose) = address lane

/-- The pickup leg is quoted. -/
structure PickupBooked (quoted : QueryLeg → Option (String × Pose R)) (b : Booking R) (pickup : LaneInfo R) : Prop where
  held : Holds b.laneletMap pickup
  route : ∃ r, b.pickupRoute = some r ∧ r.goalLaneId = pickup.laneId
  result : b.result.pickupLeg.goalLaneId = toString64 pickup.laneId
  quoted : quoted .Pickup = some (address pickup)

end

section
variable {R κ : Type} [Zero R] [Add R] [Sub R] [Mul R] [NatCast R] [LT R] [DecidableLT R] [CMath R]

/-- The search for the goal of the trip leg. -/
def Connects (D : MapData R) (goalGps : GPSCoordinate R) (pickup goal : LaneInfo R) : Prop :=
  nearestConnectedLane D goalGps pickup.laneId true = .ok (some goal.laneId)

/-- Both legs are quoted. -/
structure TripBooked (D : MapData R) (quoted : QueryLeg → Option (String × Pose R)) (b : Booking R)
    (pickup goal : LaneInfo R) : Prop where
  first : PickupBooked quoted b pickup
  held : Holds b.laneletMap goal
  route : ∃ r, b.tripRoute = some r ∧ Connects D r.goalGps pickup goal
  success : b.result.success = true
  result : b.result.tripLeg.goalLaneId = toString64 goal.laneId
  quoted : quoted .Trip = some (address goal)

/-- How far a booking is. -/
inductive Booked (D : MapData R) (quoted : QueryLeg → Option (String × Pose R)) (b : Booking R) : Prop
  | nothing (before : b.state = .Idle ∨ b.state = .InitializingInMap)
      (empty : b.pickupRoute = none ∧ b.tripRoute = none)
  | pickupLeg (pickup : LaneInfo R) (state : querying b.state = true) (leg : b.leg = .Pickup)
      (goes : GoesTo b pickup) (sent : published b.state = true → quoted .Pickup = some (address pickup))
  | tripLeg (pickup goal : LaneInfo R) (state : querying b.state = true) (leg : b.leg = .Trip)
      (goes : GoesTo b goal) (booked : PickupBooked quoted b pickup) (connects : Connects D b.goalGps pickup goal)
      (sent : published b.state = true → quoted .Trip = some (address goal))
  | ready (pickup goal : LaneInfo R) (state : b.state = .RoutesReady) (trip : TripBooked D quoted b pickup goal)
  | drive (pickup goal : LaneInfo R) (state : driving b.state = true) (trip : TripBooked D quoted b pickup goal)
      (start : (b.startLaneletId, b.startPose) = address pickup)

/-! ### Moves that only change the state -/

section
variable {D : MapData R} {quoted : QueryLeg → Option (String × Pose R)} {b : Booking R} {s : TripState}

/-- A query goes on. -/
theorem booked_next (booked : Booked D quoted b) (state : querying b.state = true) (next : querying s = true)
    (sends : published s = true → published b.state = true) : Booked D quoted { b with state := s } := by
  cases booked with
  | nothing before _ => rcases before with idle | idle <;> rw [idle] at state <;> cases state
  | pickupLeg pickup _ leg goes sent =>
    exact .pickupLeg pickup next leg ⟨goes.held, goes.goal⟩ fun now => sent (sends now)
  | tripLeg pickup goal _ leg goes booked connects sent =>
    exact .tripLeg pickup goal next leg ⟨goes.held, goes.goal⟩ ⟨booked.held, booked.route, booked.result, booked.quoted⟩
      connects fun now => sent (sends now)
  | ready _ _ ready _ => rw [ready] at state; cases state
  | drive _ _ driven _ _ => cases now : b.state <;> rw [now] at state driven <;> cases state <;> cases driven

/-- A query publishes the goal of its leg. -/
theorem booked_publish (booked : Booked D quoted b) (state : b.state = .QueryPublishingGoal) :
    Booked D (Function.update quoted b.leg (some (b.goalLaneletId, b.goalPose)))
      { b with state := .QueryWaitingRoute } := by
  cases booked with
  | nothing before _ => rcases before with idle | idle <;> rw [state] at idle <;> cases idle
  | pickupLeg pickup _ leg goes sent =>
    refine .pickupLeg pickup rfl leg ⟨goes.held, goes.goal⟩ fun _ => ?_
    rw [leg, Function.update_self, goes.goal]
  | tripLeg pickup goal _ leg goes booked connects sent =>
    have other : Function.update quoted b.leg (some (b.goalLaneletId, b.goalPose)) .Pickup = quoted .Pickup := by
      rw [leg, Function.update_of_ne (by simp)]
    refine .tripLeg pickup goal rfl leg ⟨goes.held, goes.goal⟩
      ⟨booked.held, booked.route, booked.result, other.trans booked.quoted⟩ connects fun _ => ?_
    rw [leg, Function.update_self, goes.goal]
  | ready _ _ ready _ => rw [state] at ready; cases ready
  | drive _ _ driven _ _ => rw [state] at driven; cases driven

/-- A trip that is driven keeps its booking. -/
theorem TripBooked.kept {b' : Booking R} {pickup goal : LaneInfo R} (trip : TripBooked D quoted b pickup goal)
    (grown : Grown b.laneletMap b'.laneletMap)
    (same : b'.pickupRoute = b.pickupRoute ∧ b'.tripRoute = b.tripRoute ∧ b'.result = b.result) :
    TripBooked D quoted b' pickup goal := by
  obtain ⟨pickupRoute, tripRoute, result⟩ := same
  refine ⟨⟨holds_grown grown trip.first.held, ?_, ?_, trip.first.quoted⟩, holds_grown grown trip.held, ?_, ?_, ?_,
    trip.quoted⟩
  · rw [pickupRoute]
    exact trip.first.route
  · rw [result]
    exact trip.first.result
  · rw [tripRoute]
    exact trip.route
  · rw [result]
    exact trip.success
  · rw [result]
    exact trip.result

theorem booked_drive (booked : Booked D quoted b) (state : driving b.state = true) (next : driving s = true) :
    Booked D quoted { b with state := s } := by
  cases booked with
  | nothing before _ => rcases before with idle | idle <;> rw [idle] at state <;> cases state
  | pickupLeg _ query _ _ _ | tripLeg _ _ query _ _ _ _ _ =>
    cases now : b.state <;> rw [now] at state query <;> cases state <;> cases query
  | ready _ _ ready _ => rw [ready] at state; cases state
  | drive pickup goal _ trip start => exact .drive pickup goal next (trip.kept (grown_refl _) ⟨rfl, rfl, rfl⟩) start

end

/-! ### Steps that look up no lane -/

variable {D : MapData R} {quoted : QueryLeg → Option (String × Pose R)} {now : Int} {c c' : TripController R κ}

theorem booked_failQuery (c : TripController R κ) (now : Int) (reason : String) :
    Booked D quoted (bookingOf (c.failQuery now reason)) := by
  rw [failQuery_eq]
  exact .nothing (.inl rfl) ⟨rfl, rfl⟩

/-- What holds nothing still does on its way to `Idle`. -/
theorem booked_initialised (booked : Booked D quoted (bookingOf c)) (state : c.status.state = .InitializingInMap) :
    Booked D quoted { bookingOf c with state := .Idle } := by
  cases booked with
  | nothing _ empty => exact .nothing (.inl rfl) empty
  | pickupLeg _ query _ _ _ | tripLeg _ _ query _ _ _ _ _ => simp [bookingOf, state, querying] at query
  | ready _ _ ready _ => simp [bookingOf, state] at ready
  | drive _ _ driven _ _ => simp [bookingOf, state, driving] at driven

theorem booked_tickInitializingInMap {now : Int} (booked : Booked D quoted (bookingOf c))
    (state : c.status.state = .InitializingInMap) : Booked D quoted (bookingOf (c.tickInitializingInMap now)) := by
  unfold TripController.tickInitializingInMap
  split
  · simpa using booked
  · simpa using booked_initialised booked state

theorem booked_tickQueryWaitingLocalisation {T : TripTimings} {now : Int} (booked : Booked D quoted (bookingOf c))
    (state : c.status.state = .QueryWaitingLocalisation) :
    Booked D quoted (bookingOf (c.tickQueryWaitingLocalisation T now)) := by
  unfold TripController.tickQueryWaitingLocalisation
  simp only
  split
  · split
    · exact booked_failQuery _ _ _
    · simpa using booked
  · rw [bookingOf_transitionTo]
    exact booked_next booked (by simp [bookingOf, state, querying]) rfl nofun

theorem booked_tickQueryWaitingRoute {T : TripTimings} {now : Int} (booked : Booked D quoted (bookingOf c))
    (state : c.status.state = .QueryWaitingRoute) :
    Booked D quoted (bookingOf (c.tickQueryWaitingRoute T now)) := by
  rcases tickQueryWaitingRoute_cases T now c with ⟨_, set⟩ | ⟨c₁, _, again, ended⟩
  · rw [set, bookingOf_transitionTo]
    have way : querying (bookingOf c).state = true := by simp [bookingOf, state, querying]
    exact booked_next booked way rfl fun _ => by simp [bookingOf, state, published]
  · rcases ended with ⟨_, same⟩ | ⟨_, reason, failed⟩
    · rw [same]
      rcases again with rfl | rfl <;> exact booked
    · rw [failed]
      exact booked_failQuery _ _ _

theorem booked_tickWaitingLocalisation {now : Int} (booked : Booked D quoted (bookingOf c))
    (way : driving c.status.state = true) : Booked D quoted (bookingOf (c.tickWaitingLocalisation now)) := by
  unfold TripController.tickWaitingLocalisation
  split
  · simpa using booked
  · rw [bookingOf_transitionTo]
    exact booked_drive booked way rfl

theorem booked_tickEngaging {e : Env R} (booked : Booked D quoted (bookingOf c)) :
    Booked D quoted (bookingOf (c.tickEngaging e)) := by
  unfold TripController.tickEngaging
  split
  · rcases doEngage_cases e c with same | asked
    · rw [same]
      exact booked
    · rw [asked]
      exact booked
  · exact booked

theorem booked_tickDriving {now : Int} {arrived : Output R κ} {next : TripState} (booked : Booked D quoted (bookingOf c))
    (way : driving c.status.state = true) (onward : driving next = true) :
    Booked D quoted (bookingOf (c.tickDriving now arrived next)) := by
  rcases tickDriving_cases c now arrived next with same | ⟨_, there⟩
  · rw [same]
    exact booked
  · rw [there, bookingOf_transitionTo]
    exact booked_drive booked way onward

theorem booked_goToPickup (booked : Booked D quoted (bookingOf c)) :
    Booked D quoted (bookingOf (c.goToPickup now).1) := by
  rcases goToPickup_cases c now with same | ⟨waiting, went⟩
  · rw [same]
    exact booked
  · rw [went, bookingOf_transitionTo]
    exact booked_drive booked (by simp [bookingOf, waiting, driving]) rfl

omit [Add R] [Sub R] [Mul R] [NatCast R] [LT R] [DecidableLT R] [CMath R] in
theorem booked_cancel (c : TripController R κ) (now : Int) :
    (bookingOf (c.cancel now)).state = .Idle ∧ (bookingOf (c.cancel now)).pickupRoute = none ∧
      (bookingOf (c.cancel now)).tripRoute = none := by
  unfold TripController.cancel
  simp only [bookingOf_transitionTo]
  cases c.laneletMap.defaultStart <;> exact ⟨trivial, rfl, rfl⟩

theorem booked_onEngaged (booked : Booked D quoted (bookingOf c)) : Booked D quoted (bookingOf (c.onEngaged now)) := by
  unfold TripController.onEngaged
  split
  · rename_i engaging
    have way : driving (bookingOf c).state = true := by simp [bookingOf, engaging, driving]
    split <;> rw [bookingOf_transitionTo] <;> exact booked_drive booked way rfl
  · exact booked

/-! ### What a controller holds -/

/-- An idle controller holds no routes. -/
theorem booked_idle (booked : Booked D quoted (bookingOf c)) (idle : c.status.state = .Idle) :
    c.pickupRoute = none ∧ c.tripRoute = none := by
  cases booked with
  | nothing _ empty => exact empty
  | pickupLeg _ query _ _ _ | tripLeg _ _ query _ _ _ _ _ => simp [bookingOf, idle, querying] at query
  | ready _ _ ready _ => simp [bookingOf, idle] at ready
  | drive _ _ driven _ _ => simp [bookingOf, idle, driving] at driven

/-- What a controller holds whose routes are ready. -/
theorem booked_ready (booked : Booked D quoted (bookingOf c)) (ready : c.status.state = .RoutesReady) :
    ∃ pickup goal, TripBooked D quoted (bookingOf c) pickup goal := by
  cases booked with
  | nothing before _ => simp [bookingOf, ready] at before
  | pickupLeg _ query _ _ _ | tripLeg _ _ query _ _ _ _ _ => simp [bookingOf, ready, querying] at query
  | ready pickup goal _ trip => exact ⟨pickup, goal, trip⟩
  | drive _ _ driven _ _ => simp [bookingOf, ready, driving] at driven

/-- What a controller holds whose trip is accepted. -/
theorem booked_driving (booked : Booked D quoted (bookingOf c)) (way : driving c.status.state = true) :
    ∃ pickup goal, TripBooked D quoted (bookingOf c) pickup goal ∧
      (c.status.startLaneletId, c.status.startPose) = address pickup := by
  cases booked with
  | nothing before _ =>
    rcases before with state | state <;> rw [show c.status.state = _ from state] at way <;> cases way
  | pickupLeg _ query _ _ _ | tripLeg _ _ query _ _ _ _ _ =>
    rw [show (bookingOf c).state = c.status.state from rfl] at query
    cases now : c.status.state <;> rw [now] at query way <;> cases query <;> cases way
  | ready _ _ ready _ => rw [show c.status.state = _ from ready] at way; cases way
  | drive pickup goal _ trip start => exact ⟨pickup, goal, trip, start⟩

/-! ### Queries -/

variable [Div R]

/-- A query begins with a pickup leg, or has failed. -/
theorem booked_pickupLeg {fromGps toGps : GPSCoordinate R} (leg : c.currentLeg = .Pickup)
    (ran : c.startQueryLeg D now fromGps toGps = .ok c') : Booked D quoted (bookingOf c') := by
  rcases startQueryLeg_cases ran with ⟨m, reason, _, _, rfl⟩ | ⟨m, fromLane, toLane, _, _, held, _, _, rfl⟩
  · exact booked_failQuery _ _ _
  · rw [bookingOf_transitionTo]
    exact .pickupLeg toLane rfl leg ⟨held, rfl⟩ (fun now => by cases now)

/-- A query goes on with its trip leg, or has failed. -/
theorem booked_tripLeg {pickup : LaneInfo R} {fromGps : GPSCoordinate R} (leg : c.currentLeg = .Trip)
    (booked : PickupBooked quoted (bookingOf c) pickup) (goal : c.status.goalLaneletId = toString64 pickup.laneId)
    (ran : c.startQueryLeg D now fromGps c.queryGoalGps = .ok c') : Booked D quoted (bookingOf c') := by
  rcases startQueryLeg_cases ran with ⟨m, reason, _, _, rfl⟩ | ⟨m, fromLane, toLane, grown, _, held, starts, connects, rfl⟩
  · exact booked_failQuery _ _ _
  · rw [bookingOf_transitionTo]
    have start : fromLane.laneId = pickup.laneId := by
      simp only [StartsAt, leg, goal, stollId, stoll_toString64, Except.ok.injEq] at starts
      exact starts.symm
    refine .tripLeg pickup toLane rfl leg ⟨held, rfl⟩ ?_ ?_ (fun now => by cases now)
    · exact ⟨holds_grown grown booked.held, booked.route, booked.result, booked.quoted⟩
    · rw [start] at connects
      exact connects

/-- A leg that is finished leaves the trip leg begun, the query failed or the trip quoted. -/
theorem booked_finishQueryLeg (booked : Booked D quoted (bookingOf c)) (state : c.status.state = .QueryReadingEta)
    (ran : c.finishQueryLeg D now = .ok c') : Booked D quoted (bookingOf c') := by
  have query : querying (bookingOf c).state = true := by simp [bookingOf, state, querying]
  have sends : published (bookingOf c).state = true := by simp [bookingOf, state, published]
  cases booked with
  | nothing before _ => rcases before with idle | idle <;> rw [idle] at query <;> cases query
  | ready _ _ ready _ => rw [ready] at query; cases query
  | drive _ _ driven _ _ => simp [bookingOf, state, driving] at driven
  | pickupLeg pickup _ leg goes sent =>
    have goal : c.status.goalLaneletId = toString64 pickup.laneId := congrArg Prod.fst goes.goal
    rcases finishQueryLeg_cases ran with ⟨_, goalLaneId, read, started⟩ | ⟨tripLeg, _⟩
    · simp only [goal, stollId, stoll_toString64, Except.ok.injEq] at read
      have booked : PickupBooked quoted (bookingOf (c.bankPickupLeg goalLaneId)) pickup :=
        ⟨goes.held, ⟨_, rfl, read.symm⟩, goal, sent sends⟩
      exact booked_tripLeg rfl booked goal started
    · cases leg.symm.trans tripLeg
  | tripLeg pickup goal _ leg goes booked connects sent =>
    have goal_id : c.status.goalLaneletId = toString64 goal.laneId := congrArg Prod.fst goes.goal
    rcases finishQueryLeg_cases ran with ⟨pickupLeg, _⟩ | ⟨_, rfl⟩
    · cases leg.symm.trans pickupLeg
    · rw [bookingOf_transitionTo, callQueryCb_eq]
      exact .ready pickup goal rfl ⟨⟨booked.held, booked.route, booked.result, booked.quoted⟩, goes.held,
        ⟨_, rfl, connects⟩, rfl, goal_id, sent sends⟩

/-! ### Ticks -/

/-- The goals that are quoted once a tick has been handled. -/
def quotedByTick (quoted : QueryLeg → Option (String × Pose R)) (c : TripController R κ) :
    QueryLeg → Option (String × Pose R) :=
  if c.status.state = .QueryPublishingGoal then
    Function.update quoted c.currentLeg (some (c.status.goalLaneletId, c.status.goalPose))
  else quoted

theorem booked_tickQueryReadingEta {T : TripTimings} {now : Int} (booked : Booked D quoted (bookingOf c))
    (state : c.status.state = .QueryReadingEta) (ran : c.tickQueryReadingEta D T now = .ok c') :
    Booked D quoted (bookingOf c') := by
  unfold TripController.tickQueryReadingEta at ran
  split at ran
  · exact booked_finishQueryLeg booked state ran
  · split at ran
    · exact booked_finishQueryLeg (c := { c with etaDistanceM := 0, etaSeconds := 0 }) booked state ran
    · cases ran
      exact booked

theorem booked_tick {T : TripTimings} {e : Env R} (booked : Booked D quoted (bookingOf c))
    (ran : c.tick D T e = .ok c') : Booked D (quotedByTick quoted c) (bookingOf c') := by
  unfold TripController.tick at ran
  unfold quotedByTick
  cases state : c.status.state <;> rw [state] at ran <;>
    simp only [Except.ok.injEq, reduceCtorEq, if_false, if_true] at ran ⊢
  case QueryReadingEta => exact booked_tickQueryReadingEta booked state ran
  all_goals subst ran
  case Idle | RoutesReady | WaitingForPickupStart | WaitingForMove | Completed | Cancelled | Failed => exact booked
  case InitializingInMap => exact booked_tickInitializingInMap booked state
  case QueryPublishingInitialPose =>
    have way : querying (bookingOf c).state = true := by simp [bookingOf, state, querying]
    rw [TripController.tickQueryPublishingInitialPose, bookingOf_transitionTo]
    exact booked_next booked way rfl nofun
  case QueryWaitingLocalisation => exact booked_tickQueryWaitingLocalisation booked state
  case QueryPublishingGoal =>
    rw [TripController.tickQueryPublishingGoal, bookingOf_transitionTo]
    exact booked_publish booked state
  case QueryWaitingRoute => exact booked_tickQueryWaitingRoute booked state
  all_goals
    have way : driving c.status.state = true := by simp [state, driving]
  case PublishingInitialPose =>
    rw [TripController.tickPublishingInitialPose, bookingOf_transitionTo]
    exact booked_drive booked way rfl
  case WaitingLocalisation => exact booked_tickWaitingLocalisation booked way
  case Engaging => exact booked_tickEngaging booked
  case DrivingToPickup => exact booked_tickDriving booked way rfl
  case Running => exact booked_tickDriving booked way rfl

/-! ### The drive -/

/-- `startTrip` finds the pickup lane of the quote again. -/
theorem startTrip_booked (now : Int) (booked : Booked D quoted (bookingOf c)) (ready : c.status.state = .RoutesReady) :
    ∃ pickup goal route, TripBooked D quoted (bookingOf c) pickup goal ∧ c.startTrip D now =
      .ok ({ c with engagingForPickup := true, currentRouteState := none }.acceptTrip now pickup route, true) := by
  obtain ⟨pickup, goal, trip⟩ := booked_ready booked ready
  obtain ⟨route, held, own⟩ := trip.first.route
  obtain ⟨tripRoute, kept, _⟩ := trip.route
  refine ⟨pickup, goal, route, trip, ?_⟩
  have found : getLaneById D route.goalLaneId c.laneletMap = .ok (some pickup, c.laneletMap) := by
    rw [own]
    exact getLaneById_held trip.first.held
  simp only [bookingOf] at held kept
  simp [TripController.startTrip, held, kept, ready, found, bind, Except.bind, pure, Except.pure]

theorem booked_startTrip {r : TripController R κ × Bool} (booked : Booked D quoted (bookingOf c))
    (ran : c.startTrip D now = .ok r) : Booked D quoted (bookingOf r.1) := by
  rcases startTrip_cases ran with rfl | ⟨pickupRoute, _, _, _, banked, _, ready | idle, _, _⟩
  · exact booked
  · obtain ⟨pickup, goal, route, trip, started⟩ := startTrip_booked now booked ready
    cases started.symm.trans ran
    rw [TripController.acceptTrip, bookingOf_transitionTo]
    exact .drive pickup goal rfl (trip.kept (grown_refl _) ⟨rfl, rfl, rfl⟩) rfl
  · cases banked.symm.trans (booked_idle booked idle).1

/-- `move` finds the goal lane of the quote again. -/
theorem move_booked (now : Int) (booked : Booked D quoted (bookingOf c)) (waiting : c.status.state = .WaitingForMove) :
    ∃ pickup goal route, TripBooked D quoted (bookingOf c) pickup goal ∧
      (c.status.startLaneletId, c.status.startPose) = address pickup ∧
      c.move D now = .ok (c.startTripLeg now goal route, true) := by
  obtain ⟨pickup, goal, trip, start⟩ := booked_driving booked (by simp [waiting, driving])
  obtain ⟨route, held, connects⟩ := trip.route
  refine ⟨pickup, goal, route, trip, start, ?_⟩
  have read : stollId c.status.startLaneletId = .ok pickup.laneId := by
    rw [show c.status.startLaneletId = toString64 pickup.laneId from congrArg Prod.fst start]
    simp [stollId]
  have found := findNearestConnectedLane_held connects trip.held
  simp only [bookingOf] at held found
  simp [TripController.move, waiting, held, read, found, bind, Except.bind, pure, Except.pure]
  rw [← held]

theorem booked_move {r : TripController R κ × Bool} (booked : Booked D quoted (bookingOf c))
    (ran : c.move D now = .ok r) : Booked D quoted (bookingOf r.1) := by
  by_cases waiting : c.status.state = .WaitingForMove
  · obtain ⟨pickup, goal, route, trip, start, moved⟩ := move_booked now booked waiting
    cases moved.symm.trans ran
    rw [TripController.startTripLeg, bookingOf_transitionTo]
    exact .drive pickup goal rfl (trip.kept (grown_refl _) ⟨rfl, rfl, rfl⟩) start
  · rcases move_cases ran with ⟨_, rfl⟩ | ⟨state, _⟩ | ⟨_, _, _, _, state, _⟩
    · exact booked
    · exact absurd state waiting
    · exact absurd state waiting

/-- The goals that are quoted once an operation has been handled. -/
def quotedBy (quoted : QueryLeg → Option (String × Pose R)) (c : TripController R κ) :
    Operation R κ → QueryLeg → Option (String × Pose R)
  | .Tick => quotedByTick quoted c
  | _ => quoted

theorem booked_queryEta {e : Env R} {start goal : GPSCoordinate R} {cb : Option κ} {r : TripController R κ × Bool}
    (booked : Booked D quoted (bookingOf c)) (ran : c.queryEta D e start goal cb = .ok r) :
    Booked D quoted (bookingOf r.1) := by
  rcases queryEta_cases ran with ⟨_, reason, refused⟩ | ⟨_, _, vehiclePose, _, started⟩
  · rw [refused]
    cases cb <;> exact booked
  · exact booked_pickupLeg (c := c.openQuery start goal cb) rfl started

/-- Every operation keeps the booking. -/
theorem booked_apply {T : TripTimings} {e : Env R} {op : Operation R κ} (booked : Booked D quoted (bookingOf c))
    (ran : op.apply D T e c = .ok c') : Booked D (quotedBy quoted c op) (bookingOf c') := by
  cases op with
  | QueryEta start goal cb =>
    obtain ⟨r, queried, rfl⟩ := map_ok ran
    exact booked_queryEta booked queried
  | StartTrip =>
    obtain ⟨r, started, rfl⟩ := map_ok ran
    exact booked_startTrip booked started
  | GoToPickup =>
    cases ran
    exact booked_goToPickup booked
  | Move =>
    obtain ⟨r, moved, rfl⟩ := map_ok ran
    exact booked_move booked moved
  | HandleMoveCommand =>
    obtain ⟨r, handled, rfl⟩ := map_ok ran
    rcases handleMoveCommand_cases handled with ⟨_, rfl⟩ | ⟨_, moved⟩ | rfl
    · exact booked_goToPickup booked
    · exact booked_move booked moved
    · exact booked
  | Cancel =>
    cases ran
    obtain ⟨idle, empty⟩ := booked_cancel c e.now
    exact .nothing (.inl idle) empty
  | Tick => exact booked_tick booked ran
  | Eta distanceM timeSeconds =>
    cases ran
    unfold TripController.injectEta
    split <;> exact booked
  | SetCurrentGps _ | LocState _ | RouteState _ | ModeState _ | Route _ =>
    cases ran
    exact booked

/-! ### Runs -/

section
variable {T : TripTimings} {past : History (World R κ) (Input R κ) (Output R κ)} {w w' : World R κ}
variable {os : List (Output R κ)}

omit [Zero R] [Add R] [Sub R] [Mul R] [NatCast R] [LT R] [DecidableLT R] [CMath R] [Div R] in
theorem quotedGoal_other {i : Input R κ}
    (other : eventOf w i = .Tick → w.ctrl.status.state ≠ .QueryPublishingGoal) :
    quotedGoal (⟨w, i, os, w'⟩ :: past) = quotedGoal past := by
  funext leg
  have none : queryGoal leg (⟨w, i, os, w'⟩ : Moment (World R κ) (Input R κ) (Output R κ)) = none := by
    unfold queryGoal
    rw [if_neg]
    exact fun goal => other goal.1 goal.2.1
  simp [quotedGoal, none]

/-- What a tick adds to the goals that the history tells. -/
theorem quotedGoal_tick {e : Env R} (run : Runs (machine D T) past w)
    (stepped : step D T w (.Handle e .Tick) = .ok (w', os)) :
    quotedGoal (⟨w, .Handle e .Tick, os, w'⟩ :: past) = quotedByTick (quotedGoal past) w.ctrl := by
  unfold quotedByTick
  split
  · rename_i state
    obtain ⟨c, ticked, rfl, _⟩ := handle_cases stepped
    change w.ctrl.tick D T e = .ok c at ticked
    simp only [TripController.tick, state, Except.ok.injEq] at ticked
    subst ticked
    funext leg
    by_cases same : w.ctrl.currentLeg = leg
    · subst same
      rw [Function.update_self]
      simp [quotedGoal, queryGoal, eventOf, operationEvent, state, TripController.tickQueryPublishingGoal,
        TripController.doPublishGoal, TripController.emit, out_nil run]
    · rw [Function.update_of_ne (Ne.symm same)]
      simp [quotedGoal, queryGoal, same]
  · rename_i other
    exact quotedGoal_other fun _ => other

omit [Div R] in
theorem booked_initial (m : LaneletMap R) (now : Int) :
    Booked D quoted (bookingOf (initialWorld (κ := κ) m now).ctrl) := by
  have start := phaseOf_initial (κ := κ) m now
  refine .nothing (start.imp (congrArg Phase.state) (congrArg Phase.state)) ?_
  simp only [initialWorld, TripController.initializeInMap]
  split <;> exact ⟨rfl, rfl⟩

/-- In every run the controller's booking is for the goals that were published. -/
theorem booked_run (run : Runs (machine D T) past w) : Booked D (quotedGoal past) (bookingOf w.ctrl) := by
  refine run.invariant (I := fun past w => Booked D (quotedGoal past) (bookingOf w.ctrl)) ?_ ?_
  · rintro _ ⟨m, now, _, rfl⟩
    exact booked_initial _ now
  · intro past w i os w' earlier booked stepped
    change step D T w i = _ at stepped
    cases i with
    | Handle e op =>
      obtain ⟨c, applied, _, ended⟩ := handle_cases stepped
      have kept := booked_apply booked applied
      have quoted : quotedGoal (⟨w, .Handle e op, os, w'⟩ :: past) = quotedBy (quotedGoal past) w.ctrl op := by
        cases op with
        | Tick => exact quotedGoal_tick earlier stepped
        | _ => exact quotedGoal_other nofun
      rw [quoted, ended]
      split <;> exact kept
    | ModeResponse seq success =>
      have same : quotedGoal (⟨w, .ModeResponse seq success, os, w'⟩ :: past) = quotedGoal past := by
        refine quotedGoal_other fun event => ?_
        simp only [eventOf] at event
        split at event <;> cases event
      rw [same]
      rcases modeResponse_cases stepped with ⟨_, rfl, _⟩ | ⟨_, _, rfl, _⟩ | ⟨_, _, _, rfl⟩ <;> exact booked
    | EngageResponse seq code =>
      rw [quotedGoal_other (fun event => by cases event), (engageResponse_cases stepped).2.1]
      exact booked
    | Acknowledge e seq =>
      have same : quotedGoal (⟨w, .Acknowledge e seq, os, w'⟩ :: past) = quotedGoal past := by
        refine quotedGoal_other fun event => ?_
        simp only [eventOf] at event
        split at event <;> cases event
      rw [same]
      rcases acknowledge_cases stepped with ⟨_, rfl, _⟩ | ⟨_, _, rfl⟩
      · exact booked
      · exact booked_onEngaged booked

/-- The goal of the pickup leg is the one that was quoted. -/
theorem pickup_as_quoted {i : Input R κ} {pose : Pose R} (run : Runs (machine D T) past w)
    (stepped : step D T w i = .ok (w', os)) (goal : .Goal .WaitingLocalisation pose ∈ os) :
    quotedGoal past .Pickup = some (w.ctrl.status.startLaneletId, pose) ∧ w.ctrl.queryResult.success = true ∧
      w.ctrl.queryResult.pickupLeg.goalLaneId = w.ctrl.status.startLaneletId := by
  obtain ⟨event, state⟩ := advance_pickupGoal (step_advance run stepped) (mem_signals goal rfl)
  obtain ⟨e, rfl⟩ := eventOf_tick event
  obtain ⟨c, ticked, rfl, _⟩ := handle_cases stepped
  change w.ctrl.tick D T e = .ok c at ticked
  have state : w.ctrl.status.state = .WaitingLocalisation := state
  simp only [TripController.tick, state, Except.ok.injEq] at ticked
  obtain ⟨pickup, _, trip, start⟩ := booked_driving (booked_run run) (by simp [state, driving])
  have posed : pose = w.ctrl.status.startPose := by
    subst ticked
    unfold TripController.tickWaitingLocalisation at goal
    split at goal
    · have silent := mem_signals goal rfl
      rw [signals_republish, out_nil run] at silent
      cases silent
    · simpa [TripController.doPublishGoal, TripController.emit, out_nil run, state] using goal
  refine ⟨?_, trip.success, ?_⟩
  · rw [posed, start]
    exact trip.first.quoted
  · rw [show w.ctrl.status.startLaneletId = toString64 pickup.laneId from congrArg Prod.fst start]
    exact trip.first.result

/-- The goal of the trip leg is the one that was quoted. -/
theorem trip_as_quoted {i : Input R κ} {pose : Pose R} (run : Runs (machine D T) past w)
    (stepped : step D T w i = .ok (w', os)) (goal : .Goal .WaitingForMove pose ∈ os) :
    quotedGoal past .Trip = some (w'.ctrl.status.goalLaneletId, pose) ∧ w.ctrl.queryResult.success = true ∧
      w.ctrl.queryResult.tripLeg.goalLaneId = w'.ctrl.status.goalLaneletId := by
  obtain ⟨event, waiting⟩ := advance_tripGoal (step_advance run stepped) (mem_signals goal rfl)
  have waiting : w.ctrl.status.state = .WaitingForMove := waiting
  obtain ⟨e, input⟩ := eventOf_move event
  obtain ⟨_, lane, route, trip, _, moved⟩ := move_booked e.now (booked_run run) waiting
  have ended : os = (returning (w.ctrl.startTripLeg e.now lane route, true)).out ∧
      w'.ctrl.status.goalLaneletId = toString64 lane.laneId := by
    have applied : ∀ op : Operation R κ, op = .Move ∨ op = .HandleMoveCommand →
        op.apply D T e w.ctrl = .ok (returning (w.ctrl.startTripLeg e.now lane route, true)) := by
      rintro _ (rfl | rfl)
      · simp [Operation.apply, moved, Except.map]
      · simp [Operation.apply, TripController.handleMoveCommand, waiting, moved, Except.map]
    have handled : ∀ op : Operation R κ, op = .Move ∨ op = .HandleMoveCommand → i = .Handle e op →
        os = (returning (w.ctrl.startTripLeg e.now lane route, true)).out ∧
          w'.ctrl.status.goalLaneletId = toString64 lane.laneId := by
      rintro op asked rfl
      obtain ⟨c, ran, rfl, rfl⟩ := handle_cases stepped
      cases (applied op asked).symm.trans ran
      refine ⟨rfl, ?_⟩
      split <;> simp [returning, TripController.startTripLeg, TripController.doPublishGoal, TripController.emit,
        TripController.settled]
    rcases input with input | input
    · exact handled .Move (.inl rfl) input
    · exact handled .HandleMoveCommand (.inr rfl) input
  obtain ⟨rfl, ended⟩ := ended
  have posed : pose = lanePose lane := by
    simpa [returning, TripController.startTripLeg, TripController.doPublishGoal, TripController.emit, out_nil run,
      waiting] using goal
  rw [ended, posed]
  exact ⟨trip.quoted, trip.success, trip.result⟩

/-- In every run the drive goes to the lanes that the query quoted. -/
theorem drives_as_quoted (run : Runs (machine D T) past w) : Along AsQuoted past :=
  run.along fun _ _ _ _ _ earlier stepped =>
    ⟨fun _ goal => pickup_as_quoted earlier stepped goal, fun _ goal => trip_as_quoted earlier stepped goal⟩

/-- No run fails a trip: the lanes that were quoted are found again. -/
theorem never_failed (run : Runs (machine D T) past w) :
    w.ctrl.status.state ≠ .Failed ∧ w.ctrl.status.state ≠ .Cancelled := by
  cases booked_run run with
  | nothing before _ => rcases before with state | state <;> simp [show w.ctrl.status.state = _ from state]
  | pickupLeg _ query _ _ _ | tripLeg _ _ query _ _ _ _ _ =>
    constructor <;> intro state <;> simp [bookingOf, state, querying] at query
  | ready _ _ ready _ => simp [show w.ctrl.status.state = _ from ready]
  | drive _ _ driven _ _ => constructor <;> intro state <;> simp [bookingOf, state, driving] at driven

end

end

section
attribute [local instance] streetMath

/-- A whole trip on the street, from the first lane to the second. -/
theorem drives_as_quoted_on_street : ∃ past w, Runs (machine street {} : Machine (World ℚ Unit) _ _ _) past w ∧
    w.ctrl.status.state = .Completed ∧ Along AsQuoted past := by
  obtain ⟨past, w, run, done⟩ := completed_on_street
  exact ⟨past, w, run, done, drives_as_quoted run⟩

end
end AutowareAgent.Quotes
