import AutowareAgent.Quotes

/-!
The query pipeline. `Progress` lists every step of the controller with what it
does to the fields of the pipeline (the state and its time stamp, the leg, the
stored localisation and route states, the ETA, the callback, the result, the
flags) and with what it tells others: state changes, answers, return values.
Every step of a run is one of these.
-/
namespace AutowareAgent.Queries
open AutowareAgent.Machines AutowareAgent.Numerals AutowareAgent.Lanes AutowareAgent.LaneCache AutowareAgent.Trips
open AutowareAgent.TripSteps AutowareAgent.Strand AutowareAgent.Automaton AutowareAgent.Quotes

/-- The fields of the pipeline. The held routes count as held or not. -/
structure Pipeline (R κ : Type) where
  state : TripState
  enteredAt : Int
  leg : QueryLeg
  loc : Option LocState
  route : Option RouteState
  etaReceived : Bool
  distanceM : R
  etaSeconds : R
  asking : Bool
  cb : Option κ
  result : EtaQueryResult R
  startId : String
  goalId : String
  goalGps : GPSCoordinate R
  pickupHeld : Bool
  tripHeld : Bool

/-- What others are told. -/
inductive Notice (R κ : Type)
  | Changed (prev next : TripState)
  | Answered (cb : κ) (result : EtaQueryResult R)
  | Returned (ok : Bool)

section
variable {R κ : Type}

/-- The answer to a query, if it has a callback. -/
def answered (cb : Option κ) (result : EtaQueryResult R) : List (Notice R κ) :=
  (cb.map fun cb => .Answered cb result).toList

/-- What a failed or a cancelled query leaves. -/
structure Closed (p p' : Pipeline R κ) : Prop where
  state : p'.state = .Idle
  loc : p'.loc = p.loc
  asking : p'.asking = false
  cb : p'.cb = none
  pickupHeld : p'.pickupHeld = false
  tripHeld : p'.tripHeld = false

/-- What leaves the pipeline alone: a tick outside of queries that does not end
    a wait for localisation, and what is neither a command nor a message of it. -/
def Calm (p : Pipeline R κ) : Input R κ → Prop
  | .Handle _ .Tick => querying p.state = false ∧ (p.state = .WaitingLocalisation → p.loc ≠ some .Initialized)
  | .Handle _ (.Eta _ _) => p.state ≠ .QueryReadingEta
  | .Handle _ .Cancel | .Handle _ .StartTrip | .Handle _ (.QueryEta _ _ _) => False
  | .Handle _ (.LocState _) | .Handle _ (.RouteState _) => False
  | _ => True

/-- What may take an accepted trip to its next state. -/
def Drives : Input R κ → Prop
  | .Handle _ .Tick | .Handle _ .GoToPickup | .Handle _ .Move | .Handle _ .HandleMoveCommand | .Acknowledge _ _ => True
  | _ => False

end

section
variable {R κ : Type} [Zero R] [Add R] [Sub R] [Mul R] [Div R] [NatCast R] [LT R] [DecidableLT R] [CMath R]

/-- The ETA that a tick takes for the leg it ends: the one received, or none once it has settled. -/
def Measured (T : TripTimings) (now : Int) (p : Pipeline R κ) (distanceM etaSeconds : R) : Prop :=
  p.etaReceived = true ∧ distanceM = p.distanceM ∧ etaSeconds = p.etaSeconds ∨
  p.etaReceived = false ∧ T.etaSettleMs ≤ elapsedMs now p.enteredAt ∧ distanceM = 0 ∧ etaSeconds = 0

/-- A tick ends the leg: its ETA was received, or has settled. -/
def Finishes (T : TripTimings) (leg : QueryLeg) (i : Input R κ) (p : Pipeline R κ) : Prop :=
  ∃ e, i = .Handle e .Tick ∧ p.state = .QueryReadingEta ∧ p.leg = leg ∧
    (p.etaReceived = true ∨ T.etaSettleMs ≤ elapsedMs e.now p.enteredAt)

omit [Add R] [Sub R] [Mul R] [Div R] [NatCast R] [LT R] [DecidableLT R] [CMath R] in
theorem finishes_of_measured {T : TripTimings} {e : Env R} {leg : QueryLeg} {p : Pipeline R κ} {d t : R}
    (state : p.state = .QueryReadingEta) (own : p.leg = leg) (measured : Measured T e.now p d t) :
    Finishes T leg (.Handle e .Tick) p := by
  refine ⟨e, rfl, state, own, ?_⟩
  rcases measured with ⟨received, _⟩ | ⟨_, settled, _⟩
  · exact .inl received
  · exact .inr settled

/-- No lane for the end of the trip is reachable from the goal of the pickup leg. -/
def Unreachable (D : MapData R) (p : Pipeline R κ) : Prop :=
  ∃ id, p.goalId = toString64 id ∧ nearestConnectedLane D p.goalGps id true = .ok none

instance (D : MapData R) (p : Pipeline R κ) : Decidable (Unreachable D p) :=
  decidable_of_iff
    (∃ id, stoll p.goalId = .ok id ∧ p.goalId = toString64 id ∧
      nearestConnectedLane D p.goalGps id true = .ok none) <| by
    refine exists_congr fun id => and_iff_right_of_imp fun lost => ?_
    rw [lost.1, stoll_toString64]

/-- A tick fails the query: a wait is over, or its trip leg cannot begin. -/
def Fails (D : MapData R) (T : TripTimings) (now : Int) (p : Pipeline R κ) : Prop :=
  p.state = .QueryWaitingLocalisation ∧ p.loc ≠ some .Initialized ∧ T.locTimeoutMs ≤ elapsedMs now p.enteredAt ∨
  p.state = .QueryWaitingRoute ∧ p.route ≠ some .Set ∧ T.routeTimeoutMs ≤ elapsedMs now p.enteredAt ∨
  p.state = .QueryReadingEta ∧ p.leg = .Pickup ∧
    (p.etaReceived = true ∨ T.etaSettleMs ≤ elapsedMs now p.enteredAt) ∧ Unreachable D p

instance (D : MapData R) (T : TripTimings) (now : Int) (p : Pipeline R κ) : Decidable (Fails D T now p) :=
  inferInstanceAs (Decidable (_ ∨ _ ∨ _))

/-- The steps of the pipeline. -/
inductive Progress (D : MapData R) (T : TripTimings) :
    Input R κ → Pipeline R κ → List (Notice R κ) → Pipeline R κ → Prop
  | quiet {i : Input R κ} {p : Pipeline R κ} {told : List (Notice R κ)} (calm : Calm p i)
      (refused : told = [] ∨ told = [.Returned false]) : Progress D T i p told p
  | locState {e : Env R} {p : Pipeline R κ} (s : LocState) :
      Progress D T (.Handle e (.LocState s)) p [] { p with loc := some s }
  | routeState {e : Env R} {p : Pipeline R κ} (s : RouteState) :
      Progress D T (.Handle e (.RouteState s)) p [] { p with route := some s }
  | eta {e : Env R} {p : Pipeline R κ} (d t : R) (reading : p.state = .QueryReadingEta) :
      Progress D T (.Handle e (.Eta d t)) p [] { p with etaReceived := true, distanceM := d, etaSeconds := t }
  | cancel {e : Env R} {p p' : Pipeline R κ} (closed : Closed p p') : Progress D T (.Handle e .Cancel) p [] p'
  | initialised {e : Env R} {p : Pipeline R κ} (state : p.state = .InitializingInMap)
      (localised : p.loc = some .Initialized) :
      Progress D T (.Handle e .Tick) p [.Changed .InitializingInMap .Idle]
        { p with state := .Idle, enteredAt := e.now }
  | refuse {e : Env R} {p : Pipeline R κ} {start goal : GPSCoordinate R} {cb : Option κ} {r : EtaQueryResult R}
      (no : r.success = false) :
      Progress D T (.Handle e (.QueryEta start goal cb)) p (answered cb r ++ [.Returned false]) p
  | failOpen {e : Env R} {p p' : Pipeline R κ} {start goal : GPSCoordinate R} {cb : Option κ}
      {r : EtaQueryResult R} (idle : p.state = .Idle) (closed : Closed p p') (no : r.success = false) :
      Progress D T (.Handle e (.QueryEta start goal cb)) p (answered cb r ++ [.Returned true]) p'
  | openQuery {e : Env R} {p : Pipeline R κ} {start goal : GPSCoordinate R} {cb : Option κ}
      (fromLane toLane : LaneId) (idle : p.state = .Idle) :
      Progress D T (.Handle e (.QueryEta start goal cb)) p
        [.Changed .Idle .QueryPublishingInitialPose, .Returned true]
        { p with
          state := .QueryPublishingInitialPose, enteredAt := e.now, leg := .Pickup, asking := true, cb := cb
          result := .initial, startId := toString64 fromLane, goalId := toString64 toLane, goalGps := goal
          pickupHeld := false, tripHeld := false }
  | publishPose {e : Env R} {p : Pipeline R κ} (state : p.state = .QueryPublishingInitialPose) :
      Progress D T (.Handle e .Tick) p [.Changed .QueryPublishingInitialPose .QueryWaitingLocalisation]
        { p with state := .QueryWaitingLocalisation, enteredAt := e.now }
  | awaitLocalisation {e : Env R} {p : Pipeline R κ} (state : p.state = .QueryWaitingLocalisation)
      (lost : p.loc ≠ some .Initialized) (early : elapsedMs e.now p.enteredAt < T.locTimeoutMs) :
      Progress D T (.Handle e .Tick) p [] p
  | localised {e : Env R} {p : Pipeline R κ} (state : p.state = .QueryWaitingLocalisation)
      (localised : p.loc = some .Initialized) :
      Progress D T (.Handle e .Tick) p [.Changed .QueryWaitingLocalisation .QueryPublishingGoal]
        { p with state := .QueryPublishingGoal, enteredAt := e.now }
  | publishGoal {e : Env R} {p : Pipeline R κ} (state : p.state = .QueryPublishingGoal) :
      Progress D T (.Handle e .Tick) p [.Changed .QueryPublishingGoal .QueryWaitingRoute]
        { p with state := .QueryWaitingRoute, enteredAt := e.now, route := none }
  | awaitRoute {e : Env R} {p : Pipeline R κ} (state : p.state = .QueryWaitingRoute)
      (unset : p.route ≠ some .Set) (early : elapsedMs e.now p.enteredAt < T.routeTimeoutMs) :
      Progress D T (.Handle e .Tick) p [] p
  | routeSet {e : Env R} {p : Pipeline R κ} (state : p.state = .QueryWaitingRoute) (set : p.route = some .Set) :
      Progress D T (.Handle e .Tick) p [.Changed .QueryWaitingRoute .QueryReadingEta]
        { p with state := .QueryReadingEta, enteredAt := e.now, etaReceived := false }
  | awaitEta {e : Env R} {p : Pipeline R κ} (state : p.state = .QueryReadingEta) (none : p.etaReceived = false)
      (early : elapsedMs e.now p.enteredAt < T.etaSettleMs) : Progress D T (.Handle e .Tick) p [] p
  | endPickup {e : Env R} {p : Pipeline R κ} (d t : R) (pickup goal : LaneId) (state : p.state = .QueryReadingEta)
      (leg : p.leg = .Pickup) (measured : Measured T e.now p d t) (goalId : p.goalId = toString64 pickup)
      (connects : nearestConnectedLane D p.goalGps pickup true = .ok (some goal)) :
      Progress D T (.Handle e .Tick) p [.Changed .QueryReadingEta .QueryPublishingInitialPose]
        { p with
          state := .QueryPublishingInitialPose, enteredAt := e.now, leg := .Trip, route := none, distanceM := d
          etaSeconds := t, result := { p.result with pickupLeg := ⟨true, d, t, p.startId, p.goalId, ""⟩ }
          startId := p.goalId, goalId := toString64 goal, pickupHeld := true }
  | endTrip {e : Env R} {p : Pipeline R κ} (d t : R) (state : p.state = .QueryReadingEta) (leg : p.leg = .Trip)
      (measured : Measured T e.now p d t) :
      Progress D T (.Handle e .Tick) p
        (answered p.cb { p.result with tripLeg := ⟨true, d, t, p.startId, p.goalId, ""⟩, success := true } ++
          [.Changed .Idle .RoutesReady])
        { p with
          state := .RoutesReady, enteredAt := e.now, distanceM := d, etaSeconds := t, asking := false, cb := none
          result := { p.result with tripLeg := ⟨true, d, t, p.startId, p.goalId, ""⟩, success := true }
          startId := "", goalId := "", tripHeld := true }
  | fail {e : Env R} {p p' : Pipeline R κ} {r : EtaQueryResult R} (fails : Fails D T e.now p)
      (closed : Closed p p') (no : r.success = false) :
      Progress D T (.Handle e .Tick) p (answered p.cb r) p'
  | refuseTrip {e : Env R} {p : Pipeline R κ} (other : p.state ≠ .RoutesReady) :
      Progress D T (.Handle e .StartTrip) p [.Returned false] { p with route := none }
  | acceptTrip {e : Env R} {p : Pipeline R κ} (pickup : LaneId) (ready : p.state = .RoutesReady) :
      Progress D T (.Handle e .StartTrip) p [.Changed .RoutesReady .WaitingForPickupStart, .Returned true]
        { p with state := .WaitingForPickupStart, enteredAt := e.now, route := none, startId := toString64 pickup }
  | drive {i : Input R κ} {p : Pipeline R κ} {told : List (Notice R κ)} (now : Int) (s : TripState)
      (route : Option RouteState) (goalId : String) (drives : Drives i) (way : driving p.state = true)
      (next : driving s = true)
      (pose : s = .WaitingLocalisation → ∃ e, i = .Handle e .Tick ∧ p.state = .PublishingInitialPose)
      (goal : p.state = .WaitingLocalisation → s = .Engaging ∧ p.loc = some .Initialized)
      (accepted : told = [.Changed p.state s] ∨ told = [.Changed p.state s, .Returned true]) :
      Progress D T i p told { p with state := s, enteredAt := now, route := route, goalId := goalId }

end

/-! ### The controller as the pipeline sees it -/

section
variable {R κ : Type}

def pipelineOf (c : TripController R κ) : Pipeline R κ where
  state := c.status.state
  enteredAt := c.stateEnteredAt
  leg := c.currentLeg
  loc := c.currentLocState
  route := c.currentRouteState
  etaReceived := c.etaReceived
  distanceM := c.etaDistanceM
  etaSeconds := c.etaSeconds
  asking := c.querying
  cb := c.queryCb
  result := c.queryResult
  startId := c.status.startLaneletId
  goalId := c.status.goalLaneletId
  goalGps := c.queryGoalGps
  pickupHeld := c.pickupRoute.isSome
  tripHeld := c.tripRoute.isSome

def noticeOf : Output R κ → Option (Notice R κ)
  | .StateChange prev next => some (.Changed prev next)
  | .QueryResult cb result => some (.Answered cb result)
  | .Returned ok => some (.Returned ok)
  | _ => none

def notices (os : List (Output R κ)) : List (Notice R κ) := os.filterMap noticeOf

@[simp] theorem notices_nil : notices ([] : List (Output R κ)) = [] := rfl

@[simp] theorem notices_append (os os' : List (Output R κ)) : notices (os ++ os') = notices os ++ notices os' :=
  List.filterMap_append

@[simp] theorem notices_cons (o : Output R κ) (os : List (Output R κ)) :
    notices (o :: os) = (noticeOf o).toList ++ notices os := by
  unfold notices
  cases made : noticeOf o <;> simp [made]

theorem mem_notices {o : Output R κ} {os : List (Output R κ)} {n : Notice R κ} (member : o ∈ os)
    (made : noticeOf o = some n) : n ∈ notices os :=
  List.mem_filterMap.mpr ⟨o, member, made⟩

theorem answered_notices (cb : Option κ) (result : EtaQueryResult R) :
    notices (cb.map fun cb => .QueryResult cb result).toList = answered cb result := by
  cases cb <;> rfl

@[simp] theorem pipelineOf_settled (c : TripController R κ) : pipelineOf c.settled = pipelineOf c := rfl

@[simp] theorem pipelineOf_emit (o : Output R κ) (c : TripController R κ) : pipelineOf (c.emit o) = pipelineOf c := rfl

/-- A transition to another state is announced and timed. -/
theorem transitionTo_other {c : TripController R κ} (now : Int) (next : TripState) (other : c.status.state ≠ next) :
    pipelineOf (c.transitionTo now next) = { pipelineOf c with state := next, enteredAt := now } ∧
      notices (c.transitionTo now next).out = notices c.out ++ [.Changed c.status.state next] := by
  rw [transitionTo_eq]
  simp [pipelineOf, other, noticeOf]

@[simp] theorem pipelineOf_returning (r : TripController R κ × Bool) : pipelineOf (returning r) = pipelineOf r.1 := rfl

@[simp] theorem notices_returning (r : TripController R κ × Bool) :
    notices (returning r).out = notices r.1.out ++ [.Returned r.2] := by
  simp [returning, TripController.emit, noticeOf]

@[simp] theorem pipelineOf_republish (c : TripController R κ) (now : Int) (pose : Pose R) :
    pipelineOf (c.republishInitialPose now pose) = pipelineOf c := by
  unfold TripController.republishInitialPose
  split <;> rfl

@[simp] theorem notices_republish (c : TripController R κ) (now : Int) (pose : Pose R) :
    notices (c.republishInitialPose now pose).out = notices c.out := by
  unfold TripController.republishInitialPose
  split <;> simp [TripController.doPublishInitialPose, TripController.emit, noticeOf]

end

section
variable {R κ : Type} [Zero R] [Add R] [Sub R] [Mul R] [NatCast R] [LT R] [DecidableLT R] [CMath R]
variable {D : MapData R} {T : TripTimings} {quoted : QueryLeg → Option (String × Pose R)}

/-! ### Operations that look up no lane -/

omit [Add R] [Sub R] [Mul R] [NatCast R] [LT R] [DecidableLT R] [CMath R] in
/-- A failed query is closed, and answered with a failure. -/
theorem failQuery_closed (c : TripController R κ) (now : Int) (reason : String) :
    Closed (pipelineOf c) (pipelineOf (c.failQuery now reason)) ∧ ∃ r : EtaQueryResult R, r.success = false ∧
      notices (c.failQuery now reason).out = notices c.out ++ answered c.queryCb r := by
  rw [failQuery_eq]
  refine ⟨⟨rfl, rfl, rfl, rfl, rfl, rfl⟩, { c.queryResult with success := false, errorMessage := reason }, rfl, ?_⟩
  simp only [notices_append, answered_notices]

/-- The goal of a pickup leg that is quoted. -/
theorem booked_pickupGoal {c : TripController R κ} (booked : Booked D quoted (bookingOf c))
    (query : Quotes.querying c.status.state = true) (leg : c.currentLeg = .Pickup) :
    ∃ pickup : LaneInfo R, Holds c.laneletMap pickup ∧ c.status.goalLaneletId = toString64 pickup.laneId := by
  have state : ∀ {s}, (bookingOf c).state = s → Quotes.querying s = true := by
    rintro _ rfl
    exact query
  cases booked with
  | nothing before _ => rcases before with idle | idle <;> cases state idle
  | ready _ _ ready _ => cases state ready
  | drive _ _ driven _ _ => cases now : (bookingOf c).state <;> rw [now] at driven <;> cases driven <;> cases state now
  | tripLeg _ _ _ trip _ _ _ _ => cases leg.symm.trans trip
  | pickupLeg pickup _ _ goes _ => exact ⟨pickup, goes.held, congrArg Prod.fst goes.goal⟩

/-- A step of the pipeline is one of the controller that tells the same and ends in its fields. -/
theorem Progress.to {i : Input R κ} {p p' : Pipeline R κ} {told : List (Notice R κ)} {c' : TripController R κ}
    (moved : Progress D T i p told p') (sent : notices c'.out = told) (ends : pipelineOf c' = p') :
    Progress D T i p (notices c'.out) (pipelineOf c') := by
  rw [sent, ends]
  exact moved

/-- A tick that fails the query. -/
theorem fail_progress {e : Env R} {c c₁ : TripController R κ} (fails : Fails D T e.now (pipelineOf c))
    (kept : c₁.currentLocState = c.currentLocState ∧ c₁.queryCb = c.queryCb ∧ notices c₁.out = []) (reason : String) :
    Progress D T (.Handle e .Tick) (pipelineOf c) (notices (c₁.failQuery e.now reason).out)
      (pipelineOf (c₁.failQuery e.now reason)) := by
  obtain ⟨loc, cb, quiet⟩ := kept
  obtain ⟨closed, r, no, sent⟩ := failQuery_closed c₁ e.now reason
  rw [sent, quiet, cb, List.nil_append]
  have left : Closed (pipelineOf c) (pipelineOf (c₁.failQuery e.now reason)) :=
    ⟨closed.state, closed.loc.trans loc, closed.asking, closed.cb, closed.pickupHeld, closed.tripHeld⟩
  exact .fail fails left no

/-- The end of the trip leg answers the query. -/
theorem endTrip_progress {e : Env R} {c : TripController R κ} {d t : R} (quiet : c.out = [])
    (state : c.status.state = .QueryReadingEta) (leg : c.currentLeg = .Trip)
    (measured : Measured T e.now (pipelineOf c) d t) :
    let c' := ({ (TripController.bankTripLeg { c with etaDistanceM := d, etaSeconds := t }).callQueryCb with
      status := .initial } : TripController R κ).transitionTo e.now .RoutesReady
    Progress D T (.Handle e .Tick) (pipelineOf c) (notices c'.out) (pipelineOf c') := by
  obtain ⟨ends, sent⟩ := transitionTo_other e.now .RoutesReady
    (c := { (TripController.bankTripLeg { c with etaDistanceM := d, etaSeconds := t }).callQueryCb with
      status := .initial }) (by simp [TripStatus.initial])
  refine (Progress.endTrip d t state leg measured).to ?_ ?_
  · rw [sent]
    simp only [callQueryCb_eq, TripController.bankTripLeg, quiet, List.nil_append, answered_notices]
    rfl
  · rw [ends]
    simp [callQueryCb_eq, pipelineOf, TripController.bankTripLeg, TripController.legEta, TripStatus.initial]

/-- A tick that leaves the controller alone. -/
theorem rest_progress {e : Env R} {c : TripController R κ} (quiet : c.out = [])
    (calm : Calm (pipelineOf c) (.Handle e .Tick)) :
    Progress D T (.Handle e .Tick) (pipelineOf c) (notices c.out) (pipelineOf c) :=
  .quiet calm (.inl (by simp [quiet]))

/-- A tick of a driving state, which may have arrived. -/
theorem arrival_progress {e : Env R} {c : TripController R κ} {arrived : Output R κ} {next : TripState}
    (quiet : c.out = []) (way : driving c.status.state = true ∧ driving next = true)
    (elsewhere : c.status.state ≠ next ∧ c.status.state ≠ .WaitingLocalisation ∧ next ≠ .WaitingLocalisation)
    (silent : noticeOf arrived = none) :
    Progress D T (.Handle e .Tick) (pipelineOf c) (notices (c.tickDriving e.now arrived next).out)
      (pipelineOf (c.tickDriving e.now arrived next)) := by
  rcases tickDriving_cases c e.now arrived next with same | ⟨_, there⟩
  · rw [same]
    exact rest_progress quiet ⟨querying_of_driving way.1, fun state => absurd state elsewhere.2.1⟩
  · rw [there]
    obtain ⟨ends, sent⟩ := transitionTo_other e.now next
      (c := { c.emit arrived with currentRouteState := none }) elsewhere.1
    refine (Progress.drive e.now next none c.status.goalLaneletId (by trivial) way.1 way.2 ?_ ?_
      (.inl rfl)).to (sent.trans ?_) ends
    · exact fun state => absurd state elsewhere.2.2
    · exact fun state => absurd state elsewhere.2.1
    · simp [TripController.emit, silent, quiet, pipelineOf]

theorem tickInitializingInMap_progress {e : Env R} {c : TripController R κ} (quiet : c.out = [])
    (state : c.status.state = .InitializingInMap) :
    Progress D T (.Handle e .Tick) (pipelineOf c) (notices (c.tickInitializingInMap e.now).out)
      (pipelineOf (c.tickInitializingInMap e.now)) := by
  unfold TripController.tickInitializingInMap
  split
  · simpa using rest_progress quiet (by simp [Calm, pipelineOf, state, querying])
  · rename_i localised
    obtain ⟨ends, sent⟩ := transitionTo_other e.now .Idle (c := c) (by simp [state])
    refine (Progress.initialised state ?_).to (sent.trans ?_) ends
    · simpa [TripController.localised, pipelineOf] using localised
    · simp [quiet, state]

theorem tickQueryPublishingInitialPose_progress {e : Env R} {c : TripController R κ} (quiet : c.out = [])
    (state : c.status.state = .QueryPublishingInitialPose) :
    Progress D T (.Handle e .Tick) (pipelineOf c) (notices (c.tickQueryPublishingInitialPose e.now).out)
      (pipelineOf (c.tickQueryPublishingInitialPose e.now)) := by
  obtain ⟨ends, sent⟩ := transitionTo_other e.now .QueryWaitingLocalisation
    (c := c.doPublishInitialPose c.status.startPose)
    (by simp [TripController.doPublishInitialPose, TripController.emit, state])
  refine (Progress.publishPose state).to (sent.trans ?_) ends
  simp [TripController.doPublishInitialPose, TripController.emit, noticeOf, quiet, state]

theorem tickQueryWaitingLocalisation_progress {e : Env R} {c : TripController R κ} (quiet : c.out = [])
    (state : c.status.state = .QueryWaitingLocalisation) :
    Progress D T (.Handle e .Tick) (pipelineOf c) (notices (c.tickQueryWaitingLocalisation T e.now).out)
      (pipelineOf (c.tickQueryWaitingLocalisation T e.now)) := by
  unfold TripController.tickQueryWaitingLocalisation
  simp only
  split
  · rename_i lost
    have lost : c.currentLocState ≠ some .Initialized := by simpa [TripController.localised] using lost
    have waited : (c.republishInitialPose e.now c.status.startPose).stateEnteredAt = c.stateEnteredAt :=
      congrArg Pipeline.enteredAt (pipelineOf_republish c e.now c.status.startPose)
    rw [waited]
    split
    · rename_i late
      refine fail_progress (.inl ⟨state, lost, late⟩) ⟨?_, ?_, ?_⟩ _
      · exact congrArg Pipeline.loc (pipelineOf_republish c e.now c.status.startPose)
      · exact congrArg Pipeline.cb (pipelineOf_republish c e.now c.status.startPose)
      · simp [quiet]
    · rename_i early
      exact (Progress.awaitLocalisation state lost (Int.not_le.mp early)).to (by simp [quiet]) (by simp)
  · rename_i localised
    obtain ⟨ends, sent⟩ := transitionTo_other e.now .QueryPublishingGoal (c := c) (by simp [state])
    refine (Progress.localised state ?_).to (sent.trans ?_) ends
    · simpa [TripController.localised, pipelineOf] using localised
    · simp [quiet, state]

theorem tickQueryPublishingGoal_progress {e : Env R} {c : TripController R κ} (quiet : c.out = [])
    (state : c.status.state = .QueryPublishingGoal) :
    Progress D T (.Handle e .Tick) (pipelineOf c) (notices (c.tickQueryPublishingGoal e.now).out)
      (pipelineOf (c.tickQueryPublishingGoal e.now)) := by
  obtain ⟨ends, sent⟩ := transitionTo_other e.now .QueryWaitingRoute
    (c := { c.doPublishGoal c.status.goalPose with routeReceived := false, currentRouteState := none })
    (by simp [TripController.doPublishGoal, TripController.emit, state])
  refine (Progress.publishGoal state).to (sent.trans ?_) ends
  simp [TripController.doPublishGoal, TripController.emit, noticeOf, quiet, state]

theorem tickQueryWaitingRoute_progress {e : Env R} {c : TripController R κ} (quiet : c.out = [])
    (state : c.status.state = .QueryWaitingRoute) :
    Progress D T (.Handle e .Tick) (pipelineOf c) (notices (c.tickQueryWaitingRoute T e.now).out)
      (pipelineOf (c.tickQueryWaitingRoute T e.now)) := by
  rcases tickQueryWaitingRoute_cases T e.now c with ⟨set, went⟩ | ⟨c₁, unset, again, ended⟩
  · rw [went]
    obtain ⟨ends, sent⟩ := transitionTo_other e.now .QueryReadingEta
      (c := { c with etaReceived := false }) (by simp [state])
    refine (Progress.routeSet state set).to (sent.trans ?_) ends
    simp [quiet, state]
  · have kept : pipelineOf c₁ = pipelineOf c ∧ notices c₁.out = [] := by
      rcases again with rfl | rfl
      · exact ⟨rfl, by simp [quiet]⟩
      · exact ⟨rfl, by simp [TripController.doPublishGoal, TripController.emit, noticeOf, quiet]⟩
    rcases ended with ⟨early, same⟩ | ⟨late, reason, failed⟩
    · rw [same]
      exact (Progress.awaitRoute state unset early).to kept.2 kept.1
    · rw [failed]
      exact fail_progress (.inr (.inl ⟨state, unset, late⟩))
        ⟨congrArg Pipeline.loc kept.1, congrArg Pipeline.cb kept.1, kept.2⟩ reason

theorem tickPublishingInitialPose_progress {e : Env R} {c : TripController R κ} (quiet : c.out = [])
    (state : c.status.state = .PublishingInitialPose) :
    Progress D T (.Handle e .Tick) (pipelineOf c) (notices (c.tickPublishingInitialPose e.now).out)
      (pipelineOf (c.tickPublishingInitialPose e.now)) := by
  obtain ⟨ends, sent⟩ := transitionTo_other e.now .WaitingLocalisation (c := c.doPublishInitialPose c.initPose)
    (by simp [TripController.doPublishInitialPose, TripController.emit, state])
  refine (Progress.drive e.now .WaitingLocalisation c.currentRouteState c.status.goalLaneletId (by trivial) ?_ rfl ?_ ?_
    (.inl rfl)).to (sent.trans ?_) ends
  · simp [pipelineOf, state, driving]
  · exact fun _ => ⟨e, rfl, state⟩
  · simp [pipelineOf, state]
  · simp [TripController.doPublishInitialPose, TripController.emit, noticeOf, quiet, pipelineOf]

theorem tickWaitingLocalisation_progress {e : Env R} {c : TripController R κ} (quiet : c.out = [])
    (state : c.status.state = .WaitingLocalisation) :
    Progress D T (.Handle e .Tick) (pipelineOf c) (notices (c.tickWaitingLocalisation e.now).out)
      (pipelineOf (c.tickWaitingLocalisation e.now)) := by
  unfold TripController.tickWaitingLocalisation
  split
  · rename_i lost
    have lost : c.currentLocState ≠ some .Initialized := by simpa [TripController.localised] using lost
    simpa using rest_progress quiet (by simp [Calm, pipelineOf, state, querying, lost])
  · rename_i localised
    obtain ⟨ends, sent⟩ := transitionTo_other e.now .Engaging (c := c.doPublishGoal c.status.startPose)
      (by simp [TripController.doPublishGoal, TripController.emit, state])
    refine (Progress.drive e.now .Engaging c.currentRouteState c.status.goalLaneletId (by trivial) ?_ rfl (by simp) ?_
      (.inl rfl)).to (sent.trans ?_) ends
    · simp [pipelineOf, state, driving]
    · exact fun _ => ⟨rfl, by simpa [TripController.localised, pipelineOf] using localised⟩
    · simp [TripController.doPublishGoal, TripController.emit, noticeOf, quiet, pipelineOf]

theorem tickEngaging_progress {e : Env R} {c : TripController R κ} (quiet : c.out = [])
    (state : c.status.state = .Engaging) :
    Progress D T (.Handle e .Tick) (pipelineOf c) (notices (c.tickEngaging e).out)
      (pipelineOf (c.tickEngaging e)) := by
  have rest : Progress D T (.Handle e .Tick) (pipelineOf c) (notices c.out) (pipelineOf c) :=
    rest_progress quiet (by simp [Calm, pipelineOf, state, querying])
  unfold TripController.tickEngaging
  split
  · rcases doEngage_cases e c with same | asked
    · rw [same]
      exact rest
    · rw [asked]
      exact rest.to (by simp [TripController.emit, noticeOf]) rfl
  · exact rest

/-- A command that is refused tells that it is. -/
theorem refuse_progress {i : Input R κ} {c : TripController R κ} (quiet : c.out = []) (calm : Calm (pipelineOf c) i) :
    Progress D T i (pipelineOf c) (notices (returning (c, false)).out) (pipelineOf (returning (c, false))) :=
  .quiet calm (.inr (by simp [quiet]))

theorem goToPickup_progress {e : Env R} {op : Operation R κ} {c : TripController R κ} (quiet : c.out = [])
    (asked : op = .GoToPickup ∨ op = .HandleMoveCommand) :
    Progress D T (.Handle e op) (pipelineOf c) (notices (returning (c.goToPickup e.now)).out)
      (pipelineOf (returning (c.goToPickup e.now))) := by
  rcases goToPickup_cases c e.now with same | ⟨waiting, went⟩
  · rw [same]
    exact refuse_progress quiet (by rcases asked with rfl | rfl <;> trivial)
  · obtain ⟨ends, sent⟩ := transitionTo_other e.now .PublishingInitialPose
      (c := { c with currentRouteState := none, routeReceived := false }) (by simp [waiting])
    rw [went, notices_returning, pipelineOf_returning, sent, ends]
    refine .drive e.now .PublishingInitialPose none c.status.goalLaneletId ?_ ?_ rfl (by simp) ?_ (.inr ?_)
    · rcases asked with rfl | rfl <;> trivial
    · simp [pipelineOf, waiting, driving]
    · simp [pipelineOf, waiting]
    · simp [pipelineOf, quiet]

omit [Add R] [Sub R] [Mul R] [NatCast R] [LT R] [DecidableLT R] [CMath R] in
/-- A cancel closes the query, and answers nobody. -/
theorem cancel_closed (c : TripController R κ) (now : Int) :
    Closed (pipelineOf c) (pipelineOf (c.cancel now)) ∧ notices (c.cancel now).out = notices c.out := by
  unfold TripController.cancel
  cases start : c.laneletMap.defaultStart <;> refine ⟨⟨?_, ?_, ?_, ?_, ?_, ?_⟩, ?_⟩ <;>
    simp [pipelineOf, start, TripController.doPublishInitialPose, TripController.emit, TripStatus.initial, noticeOf]

/-- What an engage response posts is a step of the pipeline. -/
theorem onEngaged_progress {e : Env R} {seq : Nat} {c : TripController R κ} (quiet : c.out = []) :
    Progress D T (.Acknowledge e seq) (pipelineOf c) (notices (c.onEngaged e.now).out)
      (pipelineOf (c.onEngaged e.now)) := by
  unfold TripController.onEngaged
  split
  · rename_i engaging
    have moved : ∀ next : TripState, driving next = true → next ≠ .Engaging → next ≠ .WaitingLocalisation →
        Progress D T (.Acknowledge e seq) (pipelineOf c) (notices (c.transitionTo e.now next).out)
          (pipelineOf (c.transitionTo e.now next)) := by
      intro next way other elsewhere
      obtain ⟨ends, sent⟩ := transitionTo_other e.now next (c := c)
        (by rw [engaging]; exact Ne.symm other)
      refine (Progress.drive e.now next c.currentRouteState c.status.goalLaneletId (by trivial) ?_ way ?_ ?_
        (.inl rfl)).to (sent.trans ?_) ends
      · simp [pipelineOf, engaging, driving]
      · exact fun state => absurd state elsewhere
      · simp [pipelineOf, engaging]
      · simp [pipelineOf, quiet]
    split
    · exact moved .DrivingToPickup rfl (by simp) (by simp)
    · exact moved .Running rfl (by simp) (by simp)
  · exact .quiet trivial (.inl (by simp [quiet]))

/-! ### Operations that look up lanes -/

variable [Div R]

/-- The end of the pickup leg begins the trip leg, or fails the query. -/
theorem endPickup_progress {e : Env R} {c c' : TripController R κ} {d t : R} {goalLaneId : LaneId}
    (booked : Booked D quoted (bookingOf c)) (quiet : c.out = []) (state : c.status.state = .QueryReadingEta)
    (leg : c.currentLeg = .Pickup) (measured : Measured T e.now (pipelineOf c) d t)
    (started : (TripController.bankPickupLeg goalLaneId { c with etaDistanceM := d, etaSeconds := t }).startQueryLeg
      D e.now c.queryStartGps c.queryGoalGps = .ok c') :
    Progress D T (.Handle e .Tick) (pipelineOf c) (notices c'.out) (pipelineOf c') := by
  obtain ⟨pickup, held, goal⟩ := booked_pickupGoal booked (by simp [state, Quotes.querying]) leg
  have own : ∀ {lane}, StartsAt D
      (TripController.bankPickupLeg goalLaneId { c with etaDistanceM := d, etaSeconds := t }) c.queryStartGps lane →
      lane = pickup.laneId := by
    intro lane starts
    have starts : stollId c.status.goalLaneletId = .ok lane := starts
    rw [goal, stollId, stoll_toString64] at starts
    exact (Except.ok.inj starts).symm
  rcases startQueryLeg_cases started with
    ⟨m, reason, _, lost, rfl⟩ | ⟨m, fromLane, toLane, _, _, _, starts, connects, rfl⟩
  · refine fail_progress (.inr (.inr ⟨state, leg, ?_, pickup.laneId, goal, ?_⟩)) ?_ reason
    rotate_right
    · exact ⟨rfl, rfl, congrArg notices quiet⟩
    · rcases measured with ⟨received, _⟩ | ⟨_, settled, _⟩
      · exact .inl received
      · exact .inr settled
    · rcases lost with ⟨m', none⟩ | ⟨lane, starts, none⟩
      · -- the goal of the pickup leg is in the cache
        have found : TripController.findStartLane D c.queryStartGps
            (TripController.bankPickupLeg goalLaneId { c with etaDistanceM := d, etaSeconds := t }) =
              .ok (some pickup, c.laneletMap) := by
          simp only [TripController.findStartLane, TripController.bankPickupLeg, goal, stollId, stoll_toString64]
          exact getLaneById_held held
        cases none.symm.trans found
      · rw [own starts] at none
        exact none
  · rw [own starts] at connects
    obtain ⟨ends, sent⟩ := transitionTo_other e.now .QueryPublishingInitialPose
      (c := { TripController.bankPickupLeg goalLaneId { c with etaDistanceM := d, etaSeconds := t } with
        laneletMap := m, status := legStatus D fromLane toLane c.queryGoalGps c.status })
      (by simp [legStatus, state])
    refine (Progress.endPickup d t pickup.laneId toLane.laneId state leg measured goal connects).to
      (sent.trans ?_) (ends.trans ?_)
    · simp [TripController.bankPickupLeg, legStatus, quiet, state]
    · simp [pipelineOf, TripController.bankPickupLeg, TripController.legEta, legStatus, own starts, goal]

/-- A tick that ends a leg of the query. -/
theorem finish_progress {e : Env R} {c c' : TripController R κ} {d t : R}
    (booked : Booked D quoted (bookingOf c)) (quiet : c.out = []) (state : c.status.state = .QueryReadingEta)
    (measured : Measured T e.now (pipelineOf c) d t)
    (ran : TripController.finishQueryLeg D e.now { c with etaDistanceM := d, etaSeconds := t } = .ok c') :
    Progress D T (.Handle e .Tick) (pipelineOf c) (notices c'.out) (pipelineOf c') := by
  rcases finishQueryLeg_cases ran with ⟨leg, goalLaneId, _, started⟩ | ⟨leg, rfl⟩
  · exact endPickup_progress booked quiet state leg measured started
  · exact endTrip_progress quiet state leg measured

theorem tickQueryReadingEta_progress {e : Env R} {c c' : TripController R κ} (booked : Booked D quoted (bookingOf c))
    (quiet : c.out = []) (state : c.status.state = .QueryReadingEta)
    (ran : c.tickQueryReadingEta D T e.now = .ok c') :
    Progress D T (.Handle e .Tick) (pipelineOf c) (notices c'.out) (pipelineOf c') := by
  unfold TripController.tickQueryReadingEta at ran
  split at ran
  · rename_i received
    exact finish_progress booked quiet state (.inl ⟨received, rfl, rfl⟩) ran
  · rename_i waiting
    have waiting : c.etaReceived = false := by simpa using waiting
    split at ran
    · rename_i settled
      exact finish_progress booked quiet state (.inr ⟨waiting, settled, rfl, rfl⟩) ran
    · rename_i early
      cases ran
      exact (Progress.awaitEta state waiting (Int.not_le.mp early)).to (by simp [quiet]) rfl

/-- Every tick is a step of the pipeline. -/
theorem tick_progress {e : Env R} {c c' : TripController R κ} (booked : Booked D quoted (bookingOf c))
    (quiet : c.out = []) (ran : c.tick D T e = .ok c') :
    Progress D T (.Handle e .Tick) (pipelineOf c) (notices c'.out) (pipelineOf c') := by
  unfold TripController.tick at ran
  cases state : c.status.state <;> rw [state] at ran <;> simp only [Except.ok.injEq] at ran
  case QueryReadingEta => exact tickQueryReadingEta_progress booked quiet state ran
  all_goals subst ran
  case Idle | RoutesReady | WaitingForPickupStart | WaitingForMove | Completed | Cancelled | Failed =>
    exact rest_progress quiet (by simp [Calm, pipelineOf, state, querying])
  case InitializingInMap => exact tickInitializingInMap_progress quiet state
  case QueryPublishingInitialPose => exact tickQueryPublishingInitialPose_progress quiet state
  case QueryWaitingLocalisation => exact tickQueryWaitingLocalisation_progress quiet state
  case QueryPublishingGoal => exact tickQueryPublishingGoal_progress quiet state
  case QueryWaitingRoute => exact tickQueryWaitingRoute_progress quiet state
  case PublishingInitialPose => exact tickPublishingInitialPose_progress quiet state
  case WaitingLocalisation => exact tickWaitingLocalisation_progress quiet state
  case Engaging => exact tickEngaging_progress quiet state
  case DrivingToPickup | Running => exact arrival_progress quiet (by simp [state, driving]) (by simp [state]) rfl

theorem queryEta_progress {e : Env R} {c : TripController R κ} {start goal : GPSCoordinate R} {cb : Option κ}
    {r : TripController R κ × Bool} (quiet : c.out = []) (ran : c.queryEta D e start goal cb = .ok r) :
    Progress D T (.Handle e (.QueryEta start goal cb)) (pipelineOf c) (notices (returning r).out)
      (pipelineOf (returning r)) := by
  rcases queryEta_cases ran with ⟨no, reason, refused⟩ | ⟨yes, idle, vehiclePose, _, started⟩
  · refine (Progress.refuse (r := { EtaQueryResult.initial with errorMessage := reason }) rfl).to ?_ ?_
    · rw [notices_returning, no, refused]
      cases cb <;> simp [TripController.refuseQuery, TripController.emit, noticeOf, quiet, answered]
    · rw [pipelineOf_returning, refused]
      cases cb <;> rfl
  · rcases startQueryLeg_cases started with
      ⟨m, reason, _, _, failed⟩ | ⟨m, fromLane, toLane, _, _, _, _, _, began⟩
    · obtain ⟨closed, r', no, sent⟩ :=
        failQuery_closed { c.openQuery start goal cb with laneletMap := m } e.now reason
      refine (Progress.failOpen (p := pipelineOf c) idle
        ⟨closed.state, closed.loc, closed.asking, closed.cb, closed.pickupHeld, closed.tripHeld⟩ no).to ?_ ?_
      · rw [notices_returning, yes, failed, sent]
        simp [TripController.openQuery, quiet]
      · rw [pipelineOf_returning, failed]
    · obtain ⟨ends, sent⟩ := transitionTo_other e.now .QueryPublishingInitialPose
        (c := { c.openQuery start goal cb with
          laneletMap := m, status := legStatus D fromLane toLane start (c.openQuery start goal cb).status })
        (by simp [TripController.openQuery, legStatus, idle])
      refine (Progress.openQuery fromLane.laneId toLane.laneId idle).to ?_ ?_
      · rw [notices_returning, yes, began]
        refine (congrArg (· ++ _) sent).trans ?_
        simp [TripController.openQuery, legStatus, quiet, idle]
      · rw [pipelineOf_returning, began]
        exact ends

theorem startTrip_progress {e : Env R} {c : TripController R κ} {r : TripController R κ × Bool}
    (booked : Booked D quoted (bookingOf c)) (quiet : c.out = []) (ran : c.startTrip D e.now = .ok r) :
    Progress D T (.Handle e .StartTrip) (pipelineOf c) (notices (returning r).out) (pipelineOf (returning r)) := by
  rw [notices_returning, pipelineOf_returning]
  by_cases ready : c.status.state = .RoutesReady
  · obtain ⟨pickup, _, route, _, started⟩ := startTrip_booked e.now booked ready
    cases started.symm.trans ran
    obtain ⟨ends, sent⟩ := transitionTo_other e.now .WaitingForPickupStart
      (c := { c with
        engagingForPickup := true, currentRouteState := none
        status := { c.status with
          startLaneletId := toString64 pickup.laneId, startPose := lanePose pickup, startGps := route.goalGps } })
      (by simp [ready])
    rw [TripController.acceptTrip, sent, ends]
    simp only [quiet, ready, notices_nil, List.nil_append]
    exact .acceptTrip pickup.laneId ready
  · rcases startTrip_cases ran with rfl | ⟨_, _, _, _, banked, _, now | idle, _, _⟩
    · simp only [quiet, notices_nil, List.nil_append]
      exact .refuseTrip ready
    · exact absurd now ready
    · cases banked.symm.trans (booked_idle booked idle).1

theorem move_progress {e : Env R} {op : Operation R κ} {c : TripController R κ} {r : TripController R κ × Bool}
    (booked : Booked D quoted (bookingOf c)) (quiet : c.out = []) (asked : op = .Move ∨ op = .HandleMoveCommand)
    (ran : c.move D e.now = .ok r) :
    Progress D T (.Handle e op) (pipelineOf c) (notices (returning r).out) (pipelineOf (returning r)) := by
  by_cases waiting : c.status.state = .WaitingForMove
  · obtain ⟨_, goal, route, _, _, moved⟩ := move_booked e.now booked waiting
    cases moved.symm.trans ran
    rw [notices_returning, pipelineOf_returning, TripController.startTripLeg]
    simp only [TripController.doPublishGoal, TripController.emit]
    rw [(transitionTo_other _ _ (by simp [waiting])).1, (transitionTo_other _ _ (by simp [waiting])).2]
    refine .drive e.now .Engaging none (toString64 goal.laneId) ?_ ?_ rfl (by simp) ?_ (.inr ?_)
    · rcases asked with rfl | rfl <;> trivial
    · simp [pipelineOf, waiting, driving]
    · simp [pipelineOf, waiting]
    · simp [pipelineOf, quiet, noticeOf]
  · rcases move_cases ran with ⟨_, rfl⟩ | ⟨now, _⟩ | ⟨_, _, _, _, now, _⟩
    · exact refuse_progress quiet (by rcases asked with rfl | rfl <;> trivial)
    · exact absurd now waiting
    · exact absurd now waiting

/-- Every operation is a step of the pipeline. -/
theorem apply_progress {e : Env R} {op : Operation R κ} {c c' : TripController R κ}
    (booked : Booked D quoted (bookingOf c)) (quiet : c.out = []) (ran : op.apply D T e c = .ok c') :
    Progress D T (.Handle e op) (pipelineOf c) (notices c'.out) (pipelineOf c') := by
  cases op with
  | QueryEta start goal cb =>
    obtain ⟨r, queried, rfl⟩ := map_ok ran
    exact queryEta_progress quiet queried
  | StartTrip =>
    obtain ⟨r, started, rfl⟩ := map_ok ran
    exact startTrip_progress booked quiet started
  | GoToPickup =>
    cases ran
    exact goToPickup_progress quiet (.inl rfl)
  | Move =>
    obtain ⟨r, moved, rfl⟩ := map_ok ran
    exact move_progress booked quiet (.inl rfl) moved
  | HandleMoveCommand =>
    obtain ⟨r, handled, rfl⟩ := map_ok ran
    rcases handleMoveCommand_cases handled with ⟨_, rfl⟩ | ⟨_, moved⟩ | rfl
    · exact goToPickup_progress quiet (.inr rfl)
    · exact move_progress booked quiet (.inr rfl) moved
    · exact refuse_progress quiet trivial
  | Cancel =>
    cases ran
    obtain ⟨closed, sent⟩ := cancel_closed c e.now
    rw [sent, quiet]
    exact .cancel closed
  | Tick => exact tick_progress booked quiet ran
  | LocState s =>
    cases ran
    exact (Progress.locState s).to (by simp [quiet]) rfl
  | RouteState s =>
    cases ran
    exact (Progress.routeState s).to (by simp [quiet]) rfl
  | Eta distanceM timeSeconds =>
    cases ran
    unfold TripController.injectEta
    split
    · rename_i other
      exact .quiet other (.inl (by simp [quiet]))
    · rename_i reading
      exact (Progress.eta distanceM timeSeconds (by simpa [pipelineOf] using reading)).to (by simp [quiet]) rfl
  | SetCurrentGps _ | ModeState _ | Route _ =>
    cases ran
    refine Progress.to (.quiet ?_ (.inl rfl)) ?_ rfl
    · trivial
    · simp [TripController.setCurrentGps, TripController.onRouteReceived, quiet]

/-- Every step of a run is a step of the pipeline. -/
theorem step_progress {past : History (World R κ) (Input R κ) (Output R κ)} {w w' : World R κ} {i : Input R κ}
    {os : List (Output R κ)} (run : Runs (machine D T) past w) (stepped : step D T w i = .ok (w', os)) :
    Progress D T i (pipelineOf w.ctrl) (notices os) (pipelineOf w'.ctrl) := by
  have quiet := out_nil run
  cases i with
  | Handle e op =>
    obtain ⟨c, applied, rfl, rfl⟩ := handle_cases stepped
    have moved := apply_progress (booked_run run) quiet applied
    split <;> exact moved
  | ModeResponse seq success =>
    rcases modeResponse_cases stepped with ⟨_, rfl, rfl⟩ | ⟨_, _, rfl, rfl⟩ | ⟨_, _, rfl, rfl⟩ <;>
      exact .quiet trivial (.inl rfl)
  | EngageResponse seq code =>
    obtain ⟨rfl, same, _⟩ := engageResponse_cases stepped
    rw [same]
    exact .quiet trivial (.inl rfl)
  | Acknowledge e seq =>
    rcases acknowledge_cases stepped with ⟨_, rfl, rfl⟩ | ⟨_, rfl, rfl⟩
    · exact .quiet trivial (.inl rfl)
    · exact onEngaged_progress quiet

end
end AutowareAgent.Queries
