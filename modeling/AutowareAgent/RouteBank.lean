import AutowareAgent.Quotes

/-!
The route bank. Every step of the controller is listed with what it does to the
fields that carry routes and coordinates: the last route and its flag, the
coordinates of the query, the two held routes, and the start and the goal that
the status tells.
-/
namespace AutowareAgent.RouteBank
open AutowareAgent.Lanes AutowareAgent.Trips AutowareAgent.TripSteps AutowareAgent.Strand AutowareAgent.Automaton
open AutowareAgent.Quotes

section
variable {R κ : Type}

/-- The route that is received. -/
def routeOf : Input R κ → Option LaneletRoute
  | .Handle _ (.Route route) => some route
  | _ => none

/-- The fields of the route bank. -/
structure Holdings (R : Type) where
  state : TripState
  leg : QueryLeg
  last : Option LaneletRoute
  received : Bool
  start : GPSCoordinate R
  goal : GPSCoordinate R
  pickup : Option (HeldRoute R)
  trip : Option (HeldRoute R)
  startGps : GPSCoordinate R
  goalGps : GPSCoordinate R

def holdingsOf (c : TripController R κ) : Holdings R where
  state := c.status.state
  leg := c.currentLeg
  last := c.lastRoute
  received := c.routeReceived
  start := c.queryStartGps
  goal := c.queryGoalGps
  pickup := c.pickupRoute
  trip := c.tripRoute
  startGps := c.status.startGps
  goalGps := c.status.goalGps

@[simp] theorem holdingsOf_settled (c : TripController R κ) : holdingsOf c.settled = holdingsOf c := rfl

@[simp] theorem holdingsOf_transitionTo (c : TripController R κ) (now : Int) (next : TripState) :
    holdingsOf (c.transitionTo now next) = { holdingsOf c with state := next } := by
  simp [holdingsOf]

@[simp] theorem holdingsOf_republish (c : TripController R κ) (now : Int) (pose : Pose R) :
    holdingsOf (c.republishInitialPose now pose) = holdingsOf c := by
  unfold TripController.republishInitialPose
  split <;> rfl

/-- The steps of the route bank. What a query or a trip leaves that is over is left open. -/
inductive Carries [Zero R] (i : Input R κ) : Holdings R → Holdings R → Prop
  | stay {h : Holdings R} (silent : routeOf i = none) : Carries i h h
  | receive {h : Holdings R} (route : LaneletRoute) (received : routeOf i = some route) :
      Carries i h { h with last := some route, received := true }
  | opened {h : Holdings R} (start goal : GPSCoordinate R)
      (asked : ∃ e cb, i = .Handle e (.QueryEta start goal cb)) (idle : h.state = .Idle) :
      Carries i h { h with
        state := .QueryPublishingInitialPose, leg := .Pickup, start := start, goal := goal, pickup := none
        trip := none, goalGps := start }
  | next {h : Holdings R} (s : TripState) (silent : routeOf i = none) (query : querying h.state = true)
      (later : s = .QueryWaitingLocalisation ∨ s = .QueryPublishingGoal ∨ s = .QueryReadingEta) :
      Carries i h { h with state := s }
  | publish {h : Holdings R} (state : h.state = .QueryPublishingGoal) :
      Carries i h { h with state := .QueryWaitingRoute, received := false }
  | endPickup {h : Holdings R} (held : HeldRoute R) (state : h.state = .QueryReadingEta) (leg : h.leg = .Pickup)
      (route : held.route = h.last.getD ⟨[]⟩) (goal : held.goalGps = h.start) :
      Carries i h { h with
        state := .QueryPublishingInitialPose, leg := .Trip, received := false, pickup := some held
        goalGps := h.goal }
  | endTrip {h : Holdings R} (held : HeldRoute R) (state : h.state = .QueryReadingEta) (leg : h.leg = .Trip)
      (route : held.route = h.last.getD ⟨[]⟩) (goal : held.goalGps = h.goal) :
      Carries i h { h with state := .RoutesReady, trip := some held, startGps := ⟨0, 0⟩, goalGps := ⟨0, 0⟩ }
  | accept {h : Holdings R} (held : HeldRoute R) (pickup : h.pickup = some held)
      (before : h.state = .RoutesReady ∨ h.state = .Idle) :
      Carries i h { h with state := .WaitingForPickupStart, startGps := held.goalGps }
  | drive {h : Holdings R} (s : TripState) (received : Bool) (way : driving h.state = true) (next : driving s = true)
      (other : h.state ≠ .WaitingForMove) : Carries i h { h with state := s, received := received }
  | move {h : Holdings R} (held : HeldRoute R) (trip : h.trip = some held) (state : h.state = .WaitingForMove) :
      Carries i h { h with state := .Engaging, goalGps := held.goalGps }
  | ends {h h' : Holdings R} (state : h'.state = .Idle ∨ h'.state = .Failed) : Carries i h h'

/-- Where a query or a trip has ended, neither is under way. -/
theorem ended_outside {s : TripState} (ended : s = .Idle ∨ s = .Failed) :
    querying s = false ∧ published s = false ∧ driving s = false ∧ s ≠ .RoutesReady := by
  rcases ended with rfl | rfl
  · exact ⟨rfl, rfl, rfl, by decide⟩
  · exact ⟨rfl, rfl, rfl, by decide⟩

end

/-! ### Steps that look up no lane -/

section
variable {R κ : Type} [Zero R] {T : TripTimings} {e : Env R} {i : Input R κ} {c c' : TripController R κ}

theorem failQuery_carries {h : Holdings R} (now : Int) (reason : String) :
    Carries i h (holdingsOf (c.failQuery now reason)) := by
  rw [failQuery_eq]
  exact .ends (.inl rfl)

/-- A trip goes on. -/
theorem drive_carries {now : Int} {s : TripState} {c₁ : TripController R κ} (way : driving c.status.state = true)
    (next : driving s = true) (other : c.status.state ≠ .WaitingForMove)
    (same : ∃ received, holdingsOf c₁ = { holdingsOf c with received := received }) :
    Carries i (holdingsOf c) (holdingsOf (c₁.transitionTo now s)) := by
  obtain ⟨received, same⟩ := same
  rw [holdingsOf_transitionTo, same]
  exact Carries.drive (h := holdingsOf c) s received way next other

theorem tickInitializingInMap_carries {now : Int} (silent : routeOf i = none) :
    Carries i (holdingsOf c) (holdingsOf (c.tickInitializingInMap now)) := by
  unfold TripController.tickInitializingInMap
  split
  · rw [holdingsOf_republish]
    exact .stay silent
  · rw [holdingsOf_transitionTo]
    exact .ends (.inl rfl)

theorem tickQueryWaitingLocalisation_carries {now : Int} (state : c.status.state = .QueryWaitingLocalisation)
    (silent : routeOf i = none) :
    Carries i (holdingsOf c) (holdingsOf (c.tickQueryWaitingLocalisation T now)) := by
  unfold TripController.tickQueryWaitingLocalisation
  simp only
  split
  · split
    · exact failQuery_carries _ _
    · rw [holdingsOf_republish]
      exact .stay silent
  · rw [holdingsOf_transitionTo]
    exact .next _ silent (by simp [holdingsOf, state, querying]) (.inr (.inl rfl))

theorem tickQueryWaitingRoute_carries {now : Int} (state : c.status.state = .QueryWaitingRoute)
    (silent : routeOf i = none) : Carries i (holdingsOf c) (holdingsOf (c.tickQueryWaitingRoute T now)) := by
  rcases tickQueryWaitingRoute_cases T now c with ⟨_, went⟩ | ⟨c₁, _, again, ⟨_, same⟩ | ⟨_, reason, failed⟩⟩
  · rw [went, holdingsOf_transitionTo]
    have query : querying (holdingsOf c).state = true := by simp [holdingsOf, state, querying]
    exact .next .QueryReadingEta silent query (.inr (.inr rfl))
  · rw [same]
    rcases again with rfl | rfl <;> exact .stay silent
  · rw [failed]
    exact failQuery_carries _ _

theorem tickWaitingLocalisation_carries {now : Int} (state : c.status.state = .WaitingLocalisation)
    (silent : routeOf i = none) : Carries i (holdingsOf c) (holdingsOf (c.tickWaitingLocalisation now)) := by
  unfold TripController.tickWaitingLocalisation
  split
  · rw [holdingsOf_republish]
    exact .stay silent
  · exact drive_carries (by simp [state, driving]) rfl (by simp [state]) ⟨c.routeReceived, rfl⟩

theorem tickEngaging_carries (silent : routeOf i = none) :
    Carries i (holdingsOf c) (holdingsOf (c.tickEngaging e)) := by
  unfold TripController.tickEngaging
  split
  · rcases doEngage_cases e c with same | asked
    · rw [same]
      exact .stay silent
    · rw [asked]
      exact .stay silent
  · exact .stay silent

theorem tickDriving_carries {now : Int} {arrived : Output R κ} {s : TripState} (silent : routeOf i = none)
    (way : driving c.status.state = true) (next : driving s = true) (other : c.status.state ≠ .WaitingForMove) :
    Carries i (holdingsOf c) (holdingsOf (c.tickDriving now arrived s)) := by
  rcases tickDriving_cases c now arrived s with same | ⟨_, there⟩
  · rw [same]
    exact .stay silent
  · rw [there]
    exact drive_carries way next other ⟨c.routeReceived, rfl⟩

theorem goToPickup_carries {now : Int} (silent : routeOf i = none) :
    Carries i (holdingsOf c) (holdingsOf (c.goToPickup now).1) := by
  rcases goToPickup_cases c now with same | ⟨waiting, went⟩
  · rw [same]
    exact .stay silent
  · rw [went]
    exact drive_carries (by simp [waiting, driving]) rfl (by simp [waiting]) ⟨false, rfl⟩

theorem onEngaged_carries {now : Int} (silent : routeOf i = none) :
    Carries i (holdingsOf c) (holdingsOf (c.onEngaged now)) := by
  unfold TripController.onEngaged
  split
  · rename_i engaging
    split <;> exact drive_carries (by simp [engaging, driving]) rfl (by simp [engaging]) ⟨c.routeReceived, rfl⟩
  · exact .stay silent

/-! ### Steps that look up lanes -/

variable [Add R] [Sub R] [Mul R] [Div R] [NatCast R] [LT R] [DecidableLT R] [CMath R] {D : MapData R}

/-- The end of a leg banks the last route. -/
theorem finishQueryLeg_carries {now : Int} (state : c.status.state = .QueryReadingEta)
    (ran : c.finishQueryLeg D now = .ok c') : Carries i (holdingsOf c) (holdingsOf c') := by
  rcases finishQueryLeg_cases ran with ⟨leg, goalLaneId, _, started⟩ | ⟨leg, rfl⟩
  · rcases startQueryLeg_cases started with ⟨m, reason, _, _, rfl⟩ | ⟨m, fromLane, toLane, _, _, _, _, _, rfl⟩
    · exact failQuery_carries _ _
    · rw [holdingsOf_transitionTo]
      exact Carries.endPickup (h := holdingsOf c) _ state leg rfl rfl
  · rw [holdingsOf_transitionTo, callQueryCb_eq]
    exact Carries.endTrip (h := holdingsOf c) _ state leg rfl rfl

theorem tickQueryReadingEta_carries {now : Int} (state : c.status.state = .QueryReadingEta)
    (silent : routeOf i = none) (ran : c.tickQueryReadingEta D T now = .ok c') :
    Carries i (holdingsOf c) (holdingsOf c') := by
  unfold TripController.tickQueryReadingEta at ran
  split at ran
  · exact finishQueryLeg_carries state ran
  · split at ran
    · exact finishQueryLeg_carries (c := { c with etaDistanceM := 0, etaSeconds := 0 }) state ran
    · cases ran
      exact .stay silent

theorem tick_carries (silent : routeOf i = none) (ran : c.tick D T e = .ok c') :
    Carries i (holdingsOf c) (holdingsOf c') := by
  unfold TripController.tick at ran
  cases state : c.status.state <;> rw [state] at ran <;> simp only [Except.ok.injEq] at ran
  case QueryReadingEta => exact tickQueryReadingEta_carries state silent ran
  all_goals subst ran
  case Idle | RoutesReady | WaitingForPickupStart | WaitingForMove | Completed | Cancelled | Failed =>
    exact .stay silent
  case InitializingInMap => exact tickInitializingInMap_carries silent
  case QueryPublishingInitialPose =>
    rw [TripController.tickQueryPublishingInitialPose, holdingsOf_transitionTo]
    exact .next _ silent (by simp [holdingsOf, state, querying]) (.inl rfl)
  case QueryWaitingLocalisation => exact tickQueryWaitingLocalisation_carries state silent
  case QueryPublishingGoal =>
    rw [TripController.tickQueryPublishingGoal, holdingsOf_transitionTo]
    exact Carries.publish (h := holdingsOf c) state
  case QueryWaitingRoute => exact tickQueryWaitingRoute_carries state silent
  case PublishingInitialPose =>
    exact drive_carries (by simp [state, driving]) rfl (by simp [state]) ⟨c.routeReceived, rfl⟩
  case WaitingLocalisation => exact tickWaitingLocalisation_carries state silent
  case Engaging => exact tickEngaging_carries silent
  case DrivingToPickup | Running => exact tickDriving_carries silent (by simp [state, driving]) rfl (by simp [state])

theorem queryEta_carries {start goal : GPSCoordinate R} {cb : Option κ} {r : TripController R κ × Bool}
    (ran : c.queryEta D e start goal cb = .ok r) :
    Carries (.Handle e (.QueryEta start goal cb)) (holdingsOf c) (holdingsOf r.1) := by
  rcases queryEta_cases ran with ⟨_, reason, refused⟩ | ⟨_, idle, vehiclePose, _, started⟩
  · rw [refused]
    cases cb <;> exact .stay rfl
  · rcases startQueryLeg_cases started with ⟨m, reason, _, _, failed⟩ | ⟨m, fromLane, toLane, _, _, _, _, _, began⟩
    · rw [failed]
      exact failQuery_carries _ _
    · rw [began, holdingsOf_transitionTo]
      exact Carries.opened (h := holdingsOf c) start goal ⟨e, cb, rfl⟩ idle

theorem startTrip_carries {now : Int} {r : TripController R κ × Bool} (silent : routeOf i = none)
    (ran : c.startTrip D now = .ok r) : Carries i (holdingsOf c) (holdingsOf r.1) := by
  rcases startTrip_cases ran with rfl | ⟨held, _, m, lane, pickup, _, before, _, rfl⟩
  · exact .stay silent
  · cases lane with
    | none =>
      simp only [holdingsOf_transitionTo]
      exact .ends (.inr rfl)
    | some lane =>
      simp only [TripController.acceptTrip, holdingsOf_transitionTo]
      exact Carries.accept (h := holdingsOf c) held pickup before

theorem move_carries {now : Int} {r : TripController R κ × Bool} (silent : routeOf i = none)
    (ran : c.move D now = .ok r) : Carries i (holdingsOf c) (holdingsOf r.1) := by
  rcases move_cases ran with ⟨_, rfl⟩ | ⟨_, _, rfl⟩ | ⟨held, _, m, lane, state, trip, _, _, rfl⟩
  · exact .stay silent
  · simp only [holdingsOf_transitionTo]
    exact .ends (.inr rfl)
  · cases lane with
    | none =>
      simp only [holdingsOf_transitionTo]
      exact .ends (.inr rfl)
    | some lane =>
      simp only [TripController.startTripLeg, holdingsOf_transitionTo]
      exact Carries.move (h := holdingsOf c) held trip state

theorem apply_carries {op : Operation R κ} (ran : op.apply D T e c = .ok c') :
    Carries (.Handle e op) (holdingsOf c) (holdingsOf c') := by
  cases op with
  | QueryEta start goal cb =>
    obtain ⟨r, queried, rfl⟩ := map_ok ran
    exact queryEta_carries queried
  | StartTrip =>
    obtain ⟨r, started, rfl⟩ := map_ok ran
    exact startTrip_carries rfl started
  | GoToPickup =>
    cases ran
    exact goToPickup_carries rfl
  | Move =>
    obtain ⟨r, moved, rfl⟩ := map_ok ran
    exact move_carries rfl moved
  | HandleMoveCommand =>
    obtain ⟨r, handled, rfl⟩ := map_ok ran
    rcases handleMoveCommand_cases handled with ⟨_, rfl⟩ | ⟨_, moved⟩ | rfl
    · exact goToPickup_carries rfl
    · exact move_carries rfl moved
    · exact .stay rfl
  | Cancel =>
    cases ran
    unfold TripController.cancel
    simp only [holdingsOf_transitionTo]
    exact .ends (.inl rfl)
  | Tick => exact tick_carries rfl ran
  | Eta distanceM timeSeconds =>
    cases ran
    unfold TripController.injectEta
    split <;> exact .stay rfl
  | Route route =>
    cases ran
    exact Carries.receive (h := holdingsOf c) route rfl
  | SetCurrentGps _ | LocState _ | RouteState _ | ModeState _ =>
    cases ran
    exact .stay rfl

/-- Every step of the controller is a step of the route bank. -/
theorem step_carries {w w' : World R κ} {os : List (Output R κ)} (stepped : step D T w i = .ok (w', os)) :
    Carries i (holdingsOf w.ctrl) (holdingsOf w'.ctrl) := by
  cases i with
  | Handle e op =>
    obtain ⟨c, applied, _, rfl⟩ := handle_cases stepped
    have carried := apply_carries applied
    split <;> exact carried
  | ModeResponse seq success =>
    rcases modeResponse_cases stepped with ⟨_, rfl, _⟩ | ⟨_, _, rfl, _⟩ | ⟨_, _, _, rfl⟩ <;> exact .stay rfl
  | EngageResponse seq code =>
    rw [(engageResponse_cases stepped).2.1]
    exact .stay rfl
  | Acknowledge e seq =>
    rcases acknowledge_cases stepped with ⟨_, rfl, _⟩ | ⟨_, _, rfl⟩
    · exact .stay rfl
    · exact onEngaged_carries rfl

end
end AutowareAgent.RouteBank
