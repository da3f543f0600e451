import AutowareAgent.Bank

/-!
An idle controller remembers nothing of earlier trips. Each state has parts of the
controller that it may still read (`needs`); a part that a state does not need is
overwritten before a later state reads it. So two controllers that agree on what
their state needs cannot be told apart, and an idle one needs only the latched
messages, the initial pose and the lane cache.
-/
namespace AutowareAgent.Forgetting
open AutowareAgent.Machines AutowareAgent.Lanes AutowareAgent.LaneCache AutowareAgent.Trips AutowareAgent.TripSteps
open AutowareAgent.Strand AutowareAgent.Automaton AutowareAgent.Quotes AutowareAgent.Bank

/-- What a controller is told, whichever of its requests a response answers. -/
inductive Stimulus (R κ : Type)
  | Handle (e : Env R) (op : Operation R κ)
  | ModeResponse (success : Bool)
  | EngageResponse (code : Nat)
  | Acknowledge (e : Env R)
  deriving DecidableEq, Repr

/-- The parts of a controller that some states do not read. -/
inductive Need
  | Timers
  | Addresses
  | Query
  | Route
  | Flag
  | Eta
  deriving DecidableEq, Repr

/-- The parts that a state, or one that follows it, may read as they are. -/
def needs : TripState → Need → Bool
  | s, .Timers | s, .Addresses => s ≠ .Idle
  | s, .Query => querying s
  | s, .Route => s = .QueryWaitingRoute || driving s
  | s, .Flag => driving s
  | s, .Eta => s = .QueryReadingEta

/-- What every state may read of a controller. -/
structure Face (R κ : Type) where
  state : TripState
  loc : Option LocState
  mode : Option Bool
  initPose : Pose R
  laneletMap : LaneletMap R
  pickupLane : Option LaneId
  tripGoal : Option (GPSCoordinate R)
  out : List (Output R κ)

section
variable {R κ : Type}

def face (c : TripController R κ) : Face R κ where
  state := c.status.state
  loc := c.currentLocState
  mode := c.currentModeState
  initPose := c.initPose
  laneletMap := c.laneletMap
  pickupLane := c.pickupRoute.map HeldRoute.goalLaneId
  tripGoal := c.tripRoute.map HeldRoute.goalGps
  out := c.out

/-- The controllers agree on the part. -/
def Same : Need → TripController R κ → TripController R κ → Prop
  | .Timers, c, c' => c'.lastPublishTime = c.lastPublishTime ∧ c'.stateEnteredAt = c.stateEnteredAt
  | .Addresses, c, c' =>
    c'.status.startLaneletId = c.status.startLaneletId ∧ c'.status.startPose = c.status.startPose ∧
      c'.status.goalLaneletId = c.status.goalLaneletId ∧ c'.status.goalPose = c.status.goalPose
  | .Query, c, c' =>
    c'.currentLeg = c.currentLeg ∧ c'.queryStartGps = c.queryStartGps ∧ c'.queryGoalGps = c.queryGoalGps ∧
      c'.queryCb = c.queryCb ∧ c'.queryResult = c.queryResult
  | .Route, c, c' => c'.currentRouteState = c.currentRouteState
  | .Flag, c, c' => c'.engagingForPickup = c.engagingForPickup
  | .Eta, c, c' =>
    c'.etaReceived = c.etaReceived ∧
      (c.etaReceived = true → c'.etaDistanceM = c.etaDistanceM ∧ c'.etaSeconds = c.etaSeconds)

/-- The controllers agree on all that their state needs. -/
structure Alike (c c' : TripController R κ) : Prop where
  base : face c' = face c
  unbooked : empty c.status.state = true → c.pickupRoute = none
  same : ∀ n, needs c.status.state n = true → Same n c c'

/-- The same for operations that return a truth value. -/
def AlikeAnswers (r r' : TripController R κ × Bool) : Prop := Alike r.1 r'.1 ∧ r'.2 = r.2

section
variable {c c' : TripController R κ} {now : Int} {next : TripState} {n : Need}

theorem Alike.state (alike : Alike c c') : c'.status.state = c.status.state := congrArg Face.state alike.base

theorem Alike.loc (alike : Alike c c') : c'.currentLocState = c.currentLocState := congrArg Face.loc alike.base

theorem Alike.initPose (alike : Alike c c') : c'.initPose = c.initPose := congrArg Face.initPose alike.base

theorem Alike.laneletMap (alike : Alike c c') : c'.laneletMap = c.laneletMap := congrArg Face.laneletMap alike.base

/-! ### Publishing and state changes -/

/-- The same output leaves equal faces. -/
theorem face_emit (base : face c' = face c) (o : Output R κ) : face (c'.emit o) = face (c.emit o) :=
  congrArg (fun f => { f with out := f.out ++ [o] }) base

theorem face_transitionTo (base : face c' = face c) :
    face (c'.transitionTo now next) = face (c.transitionTo now next) := by
  have whole : ∀ c : TripController R κ, face (c.transitionTo now next) = { face c with
      state := next
      out := (face c).out ++ if (face c).state = next then [] else [.StateChange (face c).state next] } := by
    intro c
    rw [transitionTo_eq]
    rfl
  rw [whole, whole, base]

/-- A change of state keeps what agrees, and the timers agree after it. -/
theorem same_transitionTo (base : face c' = face c) (moves : c.status.state ≠ next)
    (same : n ≠ .Timers → Same n c c') : Same n (c.transitionTo now next) (c'.transitionTo now next) := by
  have state : c'.status.state = c.status.state := congrArg Face.state base
  cases n with
  | Timers => simp [Same, transitionTo_eq, state, moves]
  | _ => simpa [Same] using same nofun

/-- A change of state where all that the next state needs agrees. -/
theorem alike_transitionTo (base : face c' = face c) (moves : c.status.state ≠ next)
    (unbooked : empty next = true → c.pickupRoute = none)
    (same : ∀ n, n ≠ .Timers → needs next n = true → Same n c c') :
    Alike (c.transitionTo now next) (c'.transitionTo now next) where
  base := face_transitionTo base
  unbooked ends := by
    rw [transitionTo_pickupRoute]
    exact unbooked (by simpa using ends)
  same n needed := by
    rw [transitionTo_state] at needed
    exact same_transitionTo base moves fun other => same n other needed

/-- A change to a state that needs no more than the present one. -/
theorem alike_next {s : TripState} (alike : Alike c c') (state : c.status.state = s) (moves : s ≠ next)
    (books : empty next = true → empty s = true)
    (fewer : ∀ n, n ≠ .Timers → needs next n = true → needs s n = true) :
    Alike (c.transitionTo now next) (c'.transitionTo now next) := by
  subst state
  exact alike_transitionTo alike.base moves (fun ends => alike.unbooked (books ends)) fun n other needed =>
    alike.same n (fewer n other needed)

theorem alike_emit (alike : Alike c c') (o : Output R κ) : Alike (c.emit o) (c'.emit o) where
  base := face_emit alike.base o
  unbooked := alike.unbooked
  same n needed := by cases n <;> exact alike.same _ needed

/-- An output with the timer of the last one. -/
theorem alike_publish (alike : Alike c c') (o : Output R κ) (now : Int) :
    Alike { c.emit o with lastPublishTime := now } { c'.emit o with lastPublishTime := now } where
  base := face_emit alike.base o
  unbooked := alike.unbooked
  same n needed := by
    have own := alike.same n needed
    cases n with
    | Timers => exact ⟨rfl, own.2⟩
    | _ => exact own

theorem alike_republish (alike : Alike c c') (timed : c.status.state ≠ .Idle) (now : Int) (pose : Pose R) :
    Alike (c.republishInitialPose now pose) (c'.republishInitialPose now pose) := by
  have timers : Same .Timers c c' := alike.same .Timers (by simpa [needs] using timed)
  unfold TripController.republishInitialPose
  rw [timers.1]
  split
  · exact alike_publish alike (.InitialPose pose) now
  · exact alike

end
end

/-! ### Operations that look up no lane -/

section
variable {R κ : Type} {T : TripTimings} {e : Env R} {now : Int} {next : TripState} {c c' : TripController R κ}

/-- What resetting the route state for an engagement towards the pickup keeps. -/
theorem alike_resetForPickup (alike : Alike c c') :
    Alike { c with engagingForPickup := true, currentRouteState := none }
      { c' with engagingForPickup := true, currentRouteState := none } where
  base := alike.base
  unbooked := alike.unbooked
  same n needed := by
    have own := alike.same n needed
    cases n with
    | Route | Flag => rfl
    | _ => exact own

theorem alike_goToPickup (alike : Alike c c') : AlikeAnswers (c.goToPickup now) (c'.goToPickup now) := by
  unfold TripController.goToPickup
  rw [alike.state]
  split
  · exact ⟨alike, rfl⟩
  · rename_i waiting
    have waiting : c.status.state = .WaitingForPickupStart := by simpa using waiting
    refine ⟨alike_transitionTo alike.base ?_ nofun fun n other needed => ?_, rfl⟩
    · simp [waiting]
    · have own : needs c.status.state n = true → Same n c c' := alike.same n
      rw [waiting] at own
      cases n with
      | Timers => exact absurd rfl other
      | Addresses | Flag => exact own rfl
      | Route => rfl
      | _ => cases needed

/-- An engagement leads both to the leg that the flag tells. -/
theorem alike_onEngaged (alike : Alike c c') (now : Int) : Alike (c.onEngaged now) (c'.onEngaged now) := by
  unfold TripController.onEngaged
  rw [alike.state]
  split
  · rename_i engaging
    have flag : c'.engagingForPickup = c.engagingForPickup := alike.same .Flag (by rw [engaging]; rfl)
    rw [flag]
    split
    · exact alike_next alike engaging nofun nofun (by rintro ⟨⟩ <;> decide)
    · exact alike_next alike engaging nofun nofun (by rintro ⟨⟩ <;> decide)
  · exact alike

theorem alike_tickInitializingInMap (alike : Alike c c') (state : c.status.state = .InitializingInMap) :
    Alike (c.tickInitializingInMap now) (c'.tickInitializingInMap now) := by
  unfold TripController.tickInitializingInMap TripController.localised
  rw [alike.loc, alike.initPose]
  split
  · exact alike_republish alike (by simp [state]) _ _
  · exact alike_next alike state nofun (fun _ => rfl) (by rintro ⟨⟩ <;> decide)

theorem alike_tickQueryPublishingGoal (alike : Alike c c') (state : c.status.state = .QueryPublishingGoal) :
    Alike (c.tickQueryPublishingGoal now) (c'.tickQueryPublishingGoal now) := by
  have addresses : Same .Addresses c c' := alike.same .Addresses (by rw [state]; rfl)
  have query : Same .Query c c' := alike.same .Query (by rw [state]; rfl)
  unfold TripController.tickQueryPublishingGoal
  rw [addresses.2.2.2]
  have published := alike_emit alike (.Goal c.status.state c.status.goalPose)
  unfold TripController.doPublishGoal
  rw [alike.state]
  refine alike_transitionTo published.base ?_ nofun fun n other needed => ?_
  · rw [show ({ c.emit (.Goal c.status.state c.status.goalPose) with
      routeReceived := false, currentRouteState := none } : TripController R κ).status.state = c.status.state from rfl]
    simp [state]
  · cases n with
    | Timers => exact absurd rfl other
    | Addresses => exact addresses
    | Query => exact query
    | Route => rfl
    | _ => cases needed

theorem alike_tickWaitingLocalisation (alike : Alike c c') (state : c.status.state = .WaitingLocalisation) :
    Alike (c.tickWaitingLocalisation now) (c'.tickWaitingLocalisation now) := by
  have addresses : Same .Addresses c c' := alike.same .Addresses (by rw [state]; rfl)
  unfold TripController.tickWaitingLocalisation TripController.localised
  rw [alike.loc, alike.initPose]
  split
  · exact alike_republish alike (by simp [state]) _ _
  · unfold TripController.doPublishGoal
    rw [alike.state, addresses.2.1]
    exact alike_next (alike_emit alike _) (s := .WaitingLocalisation) state nofun nofun (by rintro ⟨⟩ <;> decide)

theorem alike_tickEngaging (alike : Alike c c') (state : c.status.state = .Engaging) :
    Alike (c.tickEngaging e) (c'.tickEngaging e) := by
  have timers : Same .Timers c c' := alike.same .Timers (by rw [state]; rfl)
  have mode : c'.currentModeState = c.currentModeState := congrArg Face.mode alike.base
  have timed : Alike { c with lastPublishTime := e.now } { c' with lastPublishTime := e.now } := by
    refine ⟨alike.base, alike.unbooked, fun n needed => ?_⟩
    have own := alike.same n needed
    cases n with
    | Timers => exact ⟨rfl, own.2⟩
    | _ => exact own
  unfold TripController.tickEngaging TripController.doEngage
  rw [timers.1, mode]
  split
  · split
    · exact timed
    · split
      · exact timed
      · exact alike_publish alike .ModeRequest e.now
  · exact alike

theorem alike_tickDriving (alike : Alike c c') (way : driving c.status.state = true) (arrived : Output R κ)
    (moves : c.status.state ≠ next) (after : next = .WaitingForMove ∨ next = .Completed) :
    Alike (c.tickDriving now arrived next) (c'.tickDriving now arrived next) := by
  have busy : c.status.state ≠ .Idle := by
    intro idle
    rw [idle] at way
    cases way
  have addresses : Same .Addresses c c' := alike.same .Addresses (by simpa [needs] using busy)
  have route : c'.currentRouteState = c.currentRouteState := alike.same .Route (by simp [needs, way])
  have flag : Same .Flag c c' := alike.same .Flag way
  unfold TripController.tickDriving
  rw [route]
  split
  · refine alike_transitionTo (face_emit alike.base arrived) moves ?_ fun n other needed => ?_
    · rcases after with rfl | rfl <;> exact nofun
    · cases n with
      | Timers => exact absurd rfl other
      | Addresses => exact addresses
      | Route => rfl
      | Flag => exact flag
      | _ => rcases after with rfl | rfl <;> cases needed
  · exact alike

variable [Zero R]

/-- A failed query needs the callback and the result; it leaves an idle controller. -/
theorem alike_failQuery (base : face c' = face c) (query : Same .Query c c') (now : Int) {reason reason' : String}
    (same : reason' = reason) : Alike (c.failQuery now reason) (c'.failQuery now reason') := by
  obtain ⟨_, _, _, cb, result⟩ := query
  subst same
  rw [failQuery_eq, failQuery_eq]
  refine ⟨?_, fun _ => rfl, fun n needed => by cases n <;> cases needed⟩
  rw [cb, result]
  exact congrArg (fun f : Face R κ => { f with
    state := .Idle
    pickupLane := none
    tripGoal := none
    out := f.out ++ (c.queryCb.map fun cb =>
      Output.QueryResult cb { c.queryResult with success := false, errorMessage := reason' }).toList }) base

/-- A cancel needs nothing but the default start. -/
theorem alike_cancel (alike : Alike c c') (now : Int) : Alike (c.cancel now) (c'.cancel now) := by
  have whole : ∀ c : TripController R κ, face (c.cancel now) = { face c with
      state := .Idle
      pickupLane := none
      tripGoal := none
      out := (face c).out ++
        ((face c).laneletMap.defaultStart.map fun start => .InitialPose (startPositionPose start)).toList } := by
    intro c
    unfold TripController.cancel
    cases start : c.laneletMap.defaultStart <;>
      simp [start, face, TripController.transitionTo, TripController.doPublishInitialPose, TripController.emit,
        TripStatus.initial]
  have empties : (c.cancel now).status.state = .Idle ∧ (c.cancel now).pickupRoute = none :=
    ⟨(booked_cancel c now).1, (booked_cancel c now).2.1⟩
  refine ⟨by rw [whole, whole, alike.base], fun _ => empties.2, fun n needed => ?_⟩
  rw [empties.1] at needed
  cases n <;> cases needed

theorem alike_tickQueryWaitingLocalisation (alike : Alike c c') (state : c.status.state = .QueryWaitingLocalisation) :
    Alike (c.tickQueryWaitingLocalisation T now) (c'.tickQueryWaitingLocalisation T now) := by
  have addresses : Same .Addresses c c' := alike.same .Addresses (by rw [state]; rfl)
  unfold TripController.tickQueryWaitingLocalisation TripController.localised
  rw [alike.loc, addresses.2.1]
  split
  · have published := alike_republish alike (by simp [state]) now c.status.startPose
    have waits : (c.republishInitialPose now c.status.startPose).status.state = .QueryWaitingLocalisation :=
      (congrArg Booking.state (bookingOf_republish c now c.status.startPose)).trans state
    have timers := published.same .Timers (by rw [waits]; rfl)
    have query := published.same .Query (by rw [waits]; rfl)
    dsimp only
    rw [timers.2]
    split
    · exact alike_failQuery published.base query now (by rw [query.1])
    · exact published
  · exact alike_next alike state nofun nofun (by rintro ⟨⟩ <;> decide)

theorem alike_tickQueryWaitingRoute (alike : Alike c c') (state : c.status.state = .QueryWaitingRoute) :
    Alike (c.tickQueryWaitingRoute T now) (c'.tickQueryWaitingRoute T now) := by
  have addresses : Same .Addresses c c' := alike.same .Addresses (by rw [state]; rfl)
  have query : Same .Query c c' := alike.same .Query (by rw [state]; rfl)
  have timers : Same .Timers c c' := alike.same .Timers (by rw [state]; rfl)
  have route : c'.currentRouteState = c.currentRouteState := alike.same .Route (by rw [state]; rfl)
  unfold TripController.tickQueryWaitingRoute
  rw [route]
  split
  · dsimp only
    have published : ∀ {d d' : TripController R κ},
        d = (if 2000 ≤ elapsedMs now c.lastPublishTime then
          { c.doPublishGoal c.status.goalPose with lastPublishTime := now } else c) →
        d' = (if 2000 ≤ elapsedMs now c'.lastPublishTime then
          { c'.doPublishGoal c'.status.goalPose with lastPublishTime := now } else c') →
        Alike d d' ∧ d.status.state = .QueryWaitingRoute := by
      rintro _ _ rfl rfl
      rw [timers.1]
      split
      · refine ⟨?_, state⟩
        unfold TripController.doPublishGoal
        rw [alike.state, addresses.2.2.2]
        exact alike_publish alike _ now
      · exact ⟨alike, state⟩
    generalize again : (if 2000 ≤ elapsedMs now c.lastPublishTime then
      { c.doPublishGoal c.status.goalPose with lastPublishTime := now } else c) = d
    generalize again' : (if 2000 ≤ elapsedMs now c'.lastPublishTime then
      { c'.doPublishGoal c'.status.goalPose with lastPublishTime := now } else c') = d'
    obtain ⟨same, waits⟩ := published again.symm again'.symm
    have entered := (same.same .Timers (by rw [waits]; rfl)).2
    have lanes : Same .Addresses d d' := same.same .Addresses (by rw [waits]; rfl)
    have asked : Same .Query d d' := same.same .Query (by rw [waits]; rfl)
    rw [entered]
    split
    · exact alike_failQuery same.base asked now (by rw [asked.1, lanes.1, lanes.2.2.1])
    · exact same
  · refine alike_transitionTo alike.base (by simp [state]) nofun fun n other needed => ?_
    cases n with
    | Timers => exact absurd rfl other
    | Addresses => exact addresses
    | Query => exact query
    | Eta => exact ⟨rfl, nofun⟩
    | _ => cases needed

/-! ### Operations that look up lanes -/

variable [Add R] [Sub R] [Mul R] [Div R] [NatCast R] [LT R] [DecidableLT R] [CMath R] {D : MapData R}

/-- A leg of a query begins alike. -/
theorem alike_startQueryLeg (base : face c' = face c) (query : Same .Query c c')
    (elsewhere : c.status.state ≠ .QueryPublishingInitialPose)
    (goal : c.currentLeg = .Trip → c'.status.goalLaneletId = c.status.goalLaneletId) (fromGps toGps : GPSCoordinate R) :
    Agree Alike (c.startQueryLeg D now fromGps toGps) (c'.startQueryLeg D now fromGps toGps) := by
  have map : c'.laneletMap = c.laneletMap := congrArg Face.laneletMap base
  have leg : c'.currentLeg = c.currentLeg := query.1
  have starts : c'.findStartLane D fromGps = c.findStartLane D fromGps := by
    unfold TripController.findStartLane
    rw [leg, map]
    cases which : c.currentLeg with
    | Pickup => rfl
    | Trip => rw [goal which]
  have mapped : ∀ m, face { c' with laneletMap := m } = face { c with laneletMap := m } := fun m =>
    congrArg (fun f => { f with laneletMap := m }) base
  unfold TripController.startQueryLeg
  rw [starts]
  refine agree_bind (agree_refl (R := Eq) fun _ => rfl) ?_
  rintro ⟨fromLane, m⟩ _ rfl
  cases fromLane with
  | none =>
    exact .ok (alike_failQuery (mapped m) query now (by dsimp only; rw [leg]))
  | some fromLane =>
    refine agree_bind (agree_refl (R := Eq) fun _ => rfl) ?_
    rintro ⟨toLane, m'⟩ _ rfl
    cases toLane with
    | none =>
      refine agree_bind (agree_refl (R := Eq) fun _ => rfl) ?_
      rintro ⟨near, m''⟩ _ rfl
      exact .ok (alike_failQuery (mapped m'') query now rfl)
    | some toLane =>
      refine .ok (alike_transitionTo (mapped m') elsewhere nofun fun n other needed => ?_)
      cases n with
      | Timers => exact absurd rfl other
      | Addresses => exact ⟨rfl, rfl, rfl, rfl⟩
      | Query => exact query
      | _ => cases needed

/-- A finished leg of a query goes on alike. -/
theorem alike_finishQueryLeg (base : face c' = face c) (query : Same .Query c c') (addresses : Same .Addresses c c')
    (state : c.status.state = .QueryReadingEta)
    (eta : c'.etaDistanceM = c.etaDistanceM ∧ c'.etaSeconds = c.etaSeconds) :
    Agree Alike (c.finishQueryLeg D now) (c'.finishQueryLeg D now) := by
  obtain ⟨leg, start, goal, cb, result⟩ := query
  obtain ⟨startId, startPose, goalId, goalPose⟩ := addresses
  have own : c'.legEta = c.legEta := by simp only [TripController.legEta, eta, startId, goalId]
  unfold TripController.finishQueryLeg
  rw [leg]
  cases which : c.currentLeg with
  | Pickup =>
    dsimp only
    rw [goalId, start, goal]
    refine agree_bind (agree_refl (R := Eq) fun _ => rfl) ?_
    rintro goalLaneId _ rfl
    have banked : face (c'.bankPickupLeg goalLaneId) = face (c.bankPickupLeg goalLaneId) :=
      congrArg (fun f => { f with pickupLane := some goalLaneId }) base
    have results : (c'.bankPickupLeg goalLaneId).queryResult = (c.bankPickupLeg goalLaneId).queryResult := by
      simp only [TripController.bankPickupLeg, own, result]
    have reading : (c.bankPickupLeg goalLaneId).status.state = .QueryReadingEta := state
    exact alike_startQueryLeg banked ⟨rfl, start, goal, cb, results⟩ (by simp [reading]) (fun _ => goalId) _ _
  | Trip =>
    have told : face ({ c'.bankTripLeg.callQueryCb with status := .initial }) =
        face ({ c.bankTripLeg.callQueryCb with status := .initial }) := by
      have results : c'.bankTripLeg.queryResult = c.bankTripLeg.queryResult := by
        simp only [TripController.bankTripLeg, own, result]
      rw [callQueryCb_eq, callQueryCb_eq, results]
      have called : c'.bankTripLeg.queryCb = c.bankTripLeg.queryCb := cb
      rw [called]
      exact (congrArg (fun f : Face R κ => { f with
        state := .Idle
        tripGoal := some c'.queryGoalGps
        out := f.out ++ (c.queryCb.map fun cb => Output.QueryResult cb c.bankTripLeg.queryResult).toList }) base).trans
          (by rw [goal])
    refine .ok (alike_transitionTo told (by simp [TripStatus.initial]) (by rintro ⟨⟩) fun n other needed => ?_)
    · cases n with
      | Timers => exact absurd rfl other
      | Addresses => exact ⟨rfl, rfl, rfl, rfl⟩
      | _ => cases needed

/-- Queries are accepted and refused alike. -/
theorem alike_queryEta (alike : Alike c c') (start goal : GPSCoordinate R) (cb : Option κ) :
    Agree AlikeAnswers (c.queryEta D e start goal cb) (c'.queryEta D e start goal cb) := by
  have refuses : ∀ reason, AlikeAnswers (c.refuseQuery reason cb, false) (c'.refuseQuery reason cb, false) := by
    intro reason
    refine ⟨?_, rfl⟩
    cases cb with
    | none => exact alike
    | some cb => exact alike_emit alike _
  unfold TripController.queryEta
  rw [alike.state]
  split
  · exact .ok (refuses _)
  · rename_i idle
    have idle : c.status.state = .Idle := by simpa using idle
    split
    · exact .ok (refuses _)
    · have opened : face (c'.openQuery start goal cb) = face (c.openQuery start goal cb) :=
        congrArg (fun f => { f with pickupLane := none, tripGoal := none }) alike.base
      have elsewhere : (c.openQuery start goal cb).status.state ≠ .QueryPublishingInitialPose := by
        rw [show (c.openQuery start goal cb).status.state = c.status.state from rfl, idle]
        simp
      refine agree_bind (alike_startQueryLeg opened ⟨rfl, rfl, rfl, rfl, rfl⟩ elsewhere nofun _ _) ?_
      exact fun _ _ next => .ok ⟨next, rfl⟩

/-- `startTrip` without both routes, or in another state. -/
theorem startTrip_refused (refused : c.pickupRoute = none ∨ c.tripRoute = none ∨
      c.status.state ≠ .RoutesReady ∧ c.status.state ≠ .Idle) :
    c.startTrip D now = .ok ({ c with engagingForPickup := true, currentRouteState := none }, false) := by
  unfold TripController.startTrip
  dsimp only
  split
  · rename_i pickup trip banked held
    rw [if_pos]
    rcases refused with none | none | wrong
    · cases banked.symm.trans none
    · cases held.symm.trans none
    · exact wrong
  · rfl

/-- `startTrip` with both routes in a state that admits it. -/
theorem startTrip_admitted {pickup trip : HeldRoute R} (banked : c.pickupRoute = some pickup)
    (held : c.tripRoute = some trip) (ready : c.status.state = .RoutesReady) :
    c.startTrip D now = (getLaneById D pickup.goalLaneId c.laneletMap).map fun r =>
      match r.1 with
      | none => ({ c with engagingForPickup := true, currentRouteState := none, laneletMap := r.2 }.transitionTo
          now .Failed, false)
      | some lane => ({ c with engagingForPickup := true, currentRouteState := none, laneletMap := r.2 }.acceptTrip
          now lane pickup, true) := by
  simp only [TripController.startTrip, banked, held, ready]
  cases getLaneById D pickup.goalLaneId c.laneletMap with
  | error e => rfl
  | ok r =>
    obtain ⟨lane, m⟩ := r
    cases lane <;> rfl

/-- The trip is accepted alike. -/
theorem alike_startTrip (alike : Alike c c') :
    Agree AlikeAnswers (c.startTrip D now) (c'.startTrip D now) := by
  have reset := alike_resetForPickup alike
  have pickupLane : c'.pickupRoute.map HeldRoute.goalLaneId = c.pickupRoute.map HeldRoute.goalLaneId :=
    congrArg Face.pickupLane alike.base
  have tripGoal : c'.tripRoute.map HeldRoute.goalGps = c.tripRoute.map HeldRoute.goalGps :=
    congrArg Face.tripGoal alike.base
  by_cases refused : c.pickupRoute = none ∨ c.tripRoute = none ∨ c.status.state ≠ .RoutesReady ∧ c.status.state ≠ .Idle
  · have alsoRefused : c'.pickupRoute = none ∨ c'.tripRoute = none ∨
        c'.status.state ≠ .RoutesReady ∧ c'.status.state ≠ .Idle := by
      rw [alike.state]
      rcases refused with none | none | wrong
      · exact .inl (by simpa [none] using pickupLane)
      · exact .inr (.inl (by simpa [none] using tripGoal))
      · exact .inr (.inr wrong)
    rw [startTrip_refused refused, startTrip_refused alsoRefused]
    exact .ok ⟨reset, rfl⟩
  · simp only [not_or, not_and, not_not] at refused
    obtain ⟨someRoute, someTrip, admits⟩ := refused
    obtain ⟨pickup, banked⟩ := Option.ne_none_iff_exists'.mp someRoute
    obtain ⟨trip, held⟩ := Option.ne_none_iff_exists'.mp someTrip
    have ready : c.status.state = .RoutesReady := by
      by_contra other
      exact someRoute (alike.unbooked (by rw [admits other]; rfl))
    rw [banked] at pickupLane
    rw [held] at tripGoal
    obtain ⟨pickup', banked', lane⟩ := Option.map_eq_some_iff.mp pickupLane
    obtain ⟨trip', held', _⟩ := Option.map_eq_some_iff.mp tripGoal
    rw [startTrip_admitted banked held ready, startTrip_admitted banked' held' (alike.state.trans ready), lane,
      alike.laneletMap]
    refine agree_map (agree_refl (R := Eq) fun _ => rfl) ?_
    rintro ⟨startLane, m⟩ _ rfl
    have found := congrArg (fun f : Face R κ => { f with laneletMap := m }) reset.base
    have moves : c.status.state ≠ .Failed ∧ c.status.state ≠ .WaitingForPickupStart := by simp [ready]
    have addresses : Same .Addresses c c' := alike.same .Addresses (by rw [ready]; rfl)
    cases startLane with
    | none =>
      refine ⟨alike_transitionTo found moves.1 nofun fun n other needed => ?_, rfl⟩
      cases n with
      | Timers => exact absurd rfl other
      | Addresses => exact addresses
      | _ => cases needed
    | some startLane =>
      refine ⟨alike_transitionTo found moves.2 nofun fun n other needed => ?_, rfl⟩
      cases n with
      | Timers => exact absurd rfl other
      | Addresses => exact ⟨rfl, rfl, addresses.2.2⟩
      | Route | Flag => rfl
      | _ => cases needed

/-- `move` where it is awaited, with the trip's route. -/
theorem move_awaited {trip : HeldRoute R} (waiting : c.status.state = .WaitingForMove) (held : c.tripRoute = some trip) :
    c.move D now = stollId c.status.startLaneletId >>= fun currentLaneId =>
      (findNearestConnectedLane D trip.goalGps currentLaneId true c.laneletMap).map fun r =>
        match r.1 with
        | none => ({ c with laneletMap := r.2 }.transitionTo now .Failed, false)
        | some goalLane => ({ c with laneletMap := r.2 }.startTripLeg now goalLane trip, true) := by
  simp only [TripController.move, waiting, held]
  cases stollId c.status.startLaneletId with
  | error e => rfl
  | ok id =>
    simp only [bind, Except.bind]
    cases findNearestConnectedLane D trip.goalGps id true c.laneletMap with
    | error e => rfl
    | ok r =>
      obtain ⟨lane, m⟩ := r
      cases lane <;> rfl

/-- The trip leg begins alike. -/
theorem alike_move (alike : Alike c c') : Agree AlikeAnswers (c.move D now) (c'.move D now) := by
  by_cases waiting : c.status.state = .WaitingForMove
  · have waiting' : c'.status.state = .WaitingForMove := alike.state.trans waiting
    have addresses : Same .Addresses c c' := alike.same .Addresses (by rw [waiting]; rfl)
    have tripGoal : c'.tripRoute.map HeldRoute.goalGps = c.tripRoute.map HeldRoute.goalGps :=
      congrArg Face.tripGoal alike.base
    have moves : c.status.state ≠ .Failed ∧ c.status.state ≠ .Engaging := by simp [waiting]
    have failed : ∀ n, n ≠ .Timers → needs .Failed n = true → Same n c c' := by
      intro n other needed
      cases n with
      | Timers => exact absurd rfl other
      | Addresses => exact addresses
      | _ => cases needed
    cases trip : c.tripRoute with
    | none =>
      rw [trip] at tripGoal
      have trip' : c'.tripRoute = none := Option.map_eq_none_iff.mp tripGoal
      have lost : ∀ {d : TripController R κ}, d.status.state = .WaitingForMove → d.tripRoute = none →
          d.move D now = .ok (d.transitionTo now .Failed, false) := by
        intro d waiting empty
        simp [TripController.move, waiting, empty]
      rw [lost waiting trip, lost waiting' trip']
      exact .ok ⟨alike_transitionTo alike.base moves.1 (by rintro ⟨⟩) failed, rfl⟩
    | some route =>
      rw [trip] at tripGoal
      obtain ⟨route', trip', goal⟩ := Option.map_eq_some_iff.mp tripGoal
      rw [move_awaited waiting trip, move_awaited waiting' trip', addresses.1, goal, alike.laneletMap]
      refine agree_bind (agree_refl (R := Eq) fun _ => rfl) ?_
      rintro currentLaneId _ rfl
      refine agree_map (agree_refl (R := Eq) fun _ => rfl) ?_
      rintro ⟨goalLane, m⟩ _ rfl
      have found := congrArg (fun f : Face R κ => { f with laneletMap := m }) alike.base
      cases goalLane with
      | none =>
        refine ⟨alike_transitionTo found moves.1 (by rintro ⟨⟩) fun n other needed => ?_, rfl⟩
        cases n <;> exact failed _ other needed
      | some goalLane =>
        have sent := congrArg (fun f : Face R κ => { f with
          laneletMap := m
          out := f.out ++ [Output.Goal f.state (lanePose goalLane)] }) alike.base
        refine ⟨alike_transitionTo sent moves.2 (by rintro ⟨⟩) fun n other needed => ?_, rfl⟩
        cases n with
        | Timers => exact absurd rfl other
        | Addresses => exact ⟨addresses.1, addresses.2.1, rfl, rfl⟩
        | Route | Flag => rfl
        | _ => cases needed
  · have refused : ∀ {d : TripController R κ}, d.status.state ≠ .WaitingForMove → d.move D now = .ok (d, false) := by
      intro d other
      simp [TripController.move, other]
    rw [refused waiting, refused (alike.state ▸ waiting)]
    exact .ok ⟨alike, rfl⟩

theorem alike_handleMoveCommand (alike : Alike c c') :
    Agree AlikeAnswers (c.handleMoveCommand D now) (c'.handleMoveCommand D now) := by
  unfold TripController.handleMoveCommand
  rw [alike.state]
  split
  · exact .ok (alike_goToPickup alike)
  · split
    · exact alike_move alike
    · exact .ok ⟨alike, rfl⟩

/-- The end of a leg needs an estimate only where one was received. -/
theorem alike_tickQueryReadingEta (alike : Alike c c') (state : c.status.state = .QueryReadingEta) :
    Agree Alike (c.tickQueryReadingEta D T now) (c'.tickQueryReadingEta D T now) := by
  have addresses : Same .Addresses c c' := alike.same .Addresses (by rw [state]; rfl)
  have query : Same .Query c c' := alike.same .Query (by rw [state]; rfl)
  have timers : Same .Timers c c' := alike.same .Timers (by rw [state]; rfl)
  have eta : Same .Eta c c' := alike.same .Eta (by rw [state]; rfl)
  unfold TripController.tickQueryReadingEta
  rw [eta.1, timers.2]
  split
  · rename_i received
    exact alike_finishQueryLeg alike.base query addresses state (eta.2 received)
  · split
    · exact alike_finishQueryLeg (c := { c with etaDistanceM := 0, etaSeconds := 0 }) alike.base query addresses state
        ⟨rfl, rfl⟩
    · exact .ok alike

/-- A tick keeps controllers alike. -/
theorem alike_tick (alike : Alike c c') : Agree Alike (c.tick D T e) (c'.tick D T e) := by
  unfold TripController.tick
  rw [alike.state]
  cases state : c.status.state with
  | Idle | RoutesReady | WaitingForPickupStart | WaitingForMove | Completed | Cancelled | Failed => exact .ok alike
  | InitializingInMap => exact .ok (alike_tickInitializingInMap alike state)
  | QueryPublishingInitialPose =>
    have addresses : Same .Addresses c c' := alike.same .Addresses (by rw [state]; rfl)
    refine .ok ?_
    unfold TripController.tickQueryPublishingInitialPose TripController.doPublishInitialPose
    rw [addresses.2.1]
    exact alike_next (alike_emit alike _) (s := .QueryPublishingInitialPose) state nofun nofun
      (by rintro ⟨⟩ <;> decide)
  | QueryWaitingLocalisation => exact .ok (alike_tickQueryWaitingLocalisation alike state)
  | QueryPublishingGoal => exact .ok (alike_tickQueryPublishingGoal alike state)
  | QueryWaitingRoute => exact .ok (alike_tickQueryWaitingRoute alike state)
  | QueryReadingEta => exact alike_tickQueryReadingEta alike state
  | PublishingInitialPose =>
    refine .ok ?_
    unfold TripController.tickPublishingInitialPose TripController.doPublishInitialPose
    rw [alike.initPose]
    exact alike_next (alike_emit alike _) (s := .PublishingInitialPose) state nofun nofun (by rintro ⟨⟩ <;> decide)
  | WaitingLocalisation => exact .ok (alike_tickWaitingLocalisation alike state)
  | Engaging => exact .ok (alike_tickEngaging alike state)
  | DrivingToPickup =>
    exact .ok (alike_tickDriving alike (by rw [state]; rfl) _ (by simp [state]) (.inl rfl))
  | Running => exact .ok (alike_tickDriving alike (by rw [state]; rfl) _ (by simp [state]) (.inr rfl))

theorem alike_apply (alike : Alike c c') (op : Operation R κ) :
    Agree Alike (op.apply D T e c) (op.apply D T e c') := by
  have answers : ∀ r r', AlikeAnswers r r' → Alike (returning r) (returning r' : TripController R κ) := by
    rintro r r' ⟨next, same⟩
    unfold returning
    rw [same]
    exact alike_emit next _
  cases op with
  | QueryEta start goal cb => exact agree_map (alike_queryEta alike start goal cb) answers
  | StartTrip => exact agree_map (alike_startTrip alike) answers
  | GoToPickup => exact .ok (answers _ _ (alike_goToPickup alike))
  | Move => exact agree_map (alike_move alike) answers
  | HandleMoveCommand => exact agree_map (alike_handleMoveCommand alike) answers
  | Cancel => exact .ok (alike_cancel alike e.now)
  | Tick => exact alike_tick alike
  | SetCurrentGps gps =>
    refine .ok ⟨alike.base, alike.unbooked, fun n needed => ?_⟩
    cases n <;> exact alike.same _ needed
  | LocState state =>
    refine .ok ⟨congrArg (fun f => { f with loc := some state }) alike.base, alike.unbooked, fun n needed => ?_⟩
    cases n <;> exact alike.same _ needed
  | RouteState state =>
    refine .ok ⟨alike.base, alike.unbooked, fun n needed => ?_⟩
    cases n with
    | Route => rfl
    | _ => exact alike.same _ needed
  | ModeState available =>
    refine .ok ⟨congrArg (fun f => { f with mode := some available }) alike.base, alike.unbooked, fun n needed => ?_⟩
    cases n <;> exact alike.same _ needed
  | Route route =>
    refine .ok ⟨alike.base, alike.unbooked, fun n needed => ?_⟩
    cases n <;> exact alike.same _ needed
  | Eta distanceM timeSeconds =>
    refine .ok ?_
    unfold TripController.injectEta
    rw [alike.state]
    split
    · exact alike
    · refine ⟨alike.base, alike.unbooked, fun n needed => ?_⟩
      cases n with
      | Eta => exact ⟨rfl, fun _ => ⟨rfl, rfl⟩⟩
      | _ => exact alike.same _ needed

/-! ### The controller by itself -/

/-- What the controller does when it is told something, and what it puts out. -/
def react (D : MapData R) (T : TripTimings) (c : TripController R κ) :
    Stimulus R κ → Except Fault (TripController R κ × List (Output R κ))
  | .Handle e op => (op.apply D T e c).map fun c => (c.settled, c.out)
  | .ModeResponse success => .ok (c, if success then [.EngageRequest true] else [])
  | .EngageResponse _ => .ok (c, [])
  | .Acknowledge e => .ok ((c.onEngaged e.now).settled, (c.onEngaged e.now).out)

/-- The controllers that runs reach, on their own. -/
def controller (D : MapData R) (T : TripTimings) :
    Machine (TripController R κ) (Stimulus R κ) (Output R κ) Fault where
  Start c := ∃ w, Reachable (Strand.machine D T) w ∧ c = w.ctrl
  step := react D T

/-- What the controller is told by an input, if anything. -/
def stimulusOf (w : World R κ) : Input R κ → Option (Stimulus R κ)
  | .Handle e op => some (.Handle e op)
  | .ModeResponse seq success => if seq ∈ w.modeCalls then some (.ModeResponse success) else none
  | .EngageResponse seq code => if seq ∈ w.engageCalls then some (.EngageResponse code) else none
  | .Acknowledge e seq => if seq ∈ w.acks then some (.Acknowledge e) else none

/-- A step does to the controller what the controller does by itself. -/
theorem step_react {w w' : World R κ} {i : Input R κ} {os : List (Output R κ)}
    (stepped : step D T w i = .ok (w', os)) :
    match stimulusOf w i with
    | some s => react D T w.ctrl s = .ok (w'.ctrl, os)
    | none => w'.ctrl = w.ctrl ∧ os = [] := by
  cases i with
  | Handle e op =>
    obtain ⟨c, applied, rfl, rfl⟩ := handle_cases stepped
    simp only [stimulusOf, react, applied, Except.map]
    split <;> rfl
  | ModeResponse seq success =>
    rcases modeResponse_cases stepped with ⟨unknown, rfl, rfl⟩ | ⟨waiting, rfl, rfl, rfl⟩ | ⟨waiting, rfl, rfl, rfl⟩
    · simp [stimulusOf, unknown]
    · simp [stimulusOf, waiting, react]
    · simp [stimulusOf, waiting, react]
  | EngageResponse seq code =>
    obtain ⟨rfl, same, _⟩ := engageResponse_cases stepped
    by_cases waiting : seq ∈ w.engageCalls <;> simp [stimulusOf, waiting, react, same]
  | Acknowledge e seq =>
    rcases acknowledge_cases stepped with ⟨unknown, rfl, rfl⟩ | ⟨posted, rfl, rfl⟩
    · simp [stimulusOf, unknown]
    · simp [stimulusOf, posted, react]

/-- What the controller is told in the moments, the earliest first. -/
def told (newer : History (World R κ) (Input R κ) (Output R κ)) : List (Stimulus R κ) :=
  newer.reverse.filterMap fun n => stimulusOf n.pre n.input

/-- The outputs of the moments in which the controller is told something. -/
def said (newer : History (World R κ) (Input R κ) (Output R κ)) : List (List (Output R κ)) :=
  newer.reverse.filterMap fun n => (stimulusOf n.pre n.input).map fun _ => n.outputs

/-- What a world puts out while it runs on is what its controller puts out by itself. -/
theorem exec_trace {past past' : History (World R κ) (Input R κ) (Output R κ)} {w w' : World R κ}
    {inputs : List (Input R κ)} (ran : exec (Strand.machine D T) past w inputs = .ok (past', w')) :
    ∃ newer, past' = newer ++ past ∧ ∀ more, trace (controller D T) w.ctrl (told newer ++ more) =
      (said newer).map .ok ++ trace (controller D T) w'.ctrl more := by
  induction inputs generalizing past w with
  | nil =>
    cases ran
    exact ⟨[], rfl, fun more => rfl⟩
  | cons i rest ih =>
    simp only [exec] at ran
    split at ran
    · rename_i v os stepped
      obtain ⟨newer, rfl, later⟩ := ih ran
      refine ⟨newer ++ [⟨w, i, os, v⟩], by simp, fun more => ?_⟩
      have first := step_react stepped
      cases heard : stimulusOf w i with
      | none =>
        rw [heard] at first
        simpa [told, said, heard, first.1] using later more
      | some s =>
        rw [heard] at first
        have begins : (controller D T).step w.ctrl s = .ok (v.ctrl, os) := first
        simpa [told, said, heard, trace, begins] using later more
    · cases ran

/-- What alike controllers are told, they answer with the same outputs. -/
theorem alike_react (alike : Alike c c') (s : Stimulus R κ) :
    Agree (fun r r' => Alike r.1 r'.1 ∧ r'.2 = r.2) (react D T c s) (react D T c' s) := by
  have settles : ∀ d d' : TripController R κ, Alike d d' → Alike d.settled d'.settled ∧ d'.out = d.out := by
    intro d d' alike
    have bare : face d'.settled = face d.settled :=
      congrArg (fun f : Face R κ => ({ f with out := [] } : Face R κ)) alike.base
    refine ⟨⟨bare, alike.unbooked, fun n needed => ?_⟩, congrArg Face.out alike.base⟩
    cases n <;> exact alike.same _ needed
  cases s with
  | Handle e op => exact agree_map (alike_apply alike op) settles
  | ModeResponse success => exact .ok ⟨alike, rfl⟩
  | EngageResponse code => exact .ok ⟨alike, rfl⟩
  | Acknowledge e => exact .ok (settles _ _ (alike_onEngaged alike e.now))

/-- Idle controllers that runs reached and that agree on the latched messages, the
    initial pose and the lanes are alike. -/
theorem idle_alike {w w' : World R κ} (reached : Reachable (Strand.machine D T) w)
    (reached' : Reachable (Strand.machine D T) w') (idle : w.ctrl.status.state = .Idle)
    (idle' : w'.ctrl.status.state = .Idle) (loc : w'.ctrl.currentLocState = w.ctrl.currentLocState)
    (mode : w'.ctrl.currentModeState = w.ctrl.currentModeState) (pose : w'.ctrl.initPose = w.ctrl.initPose)
    (lanes : w'.ctrl.laneletMap = w.ctrl.laneletMap) : Alike w.ctrl w'.ctrl := by
  obtain ⟨past, run⟩ := reached
  obtain ⟨past', run'⟩ := reached'
  obtain ⟨noPickup, noTrip⟩ := booked_idle (booked_run run) idle
  obtain ⟨noPickup', noTrip'⟩ := booked_idle (booked_run run') idle'
  have base : face w'.ctrl = face w.ctrl := by
    simp only [face, idle, idle', loc, mode, pose, lanes, noPickup, noTrip, noPickup', noTrip', out_nil run,
      out_nil run']
  refine ⟨base, fun _ => noPickup, fun n needed => ?_⟩
  -- an idle controller needs nothing else
  rw [idle] at needed
  cases n <;> cases needed

/-- Idle controllers that runs reached and that agree on these put out the same for
    whatever they are told. -/
theorem idle_forgets {w w' : World R κ} (reached : Reachable (Strand.machine D T) w)
    (reached' : Reachable (Strand.machine D T) w') (idle : w.ctrl.status.state = .Idle)
    (idle' : w'.ctrl.status.state = .Idle) (loc : w'.ctrl.currentLocState = w.ctrl.currentLocState)
    (mode : w'.ctrl.currentModeState = w.ctrl.currentModeState) (pose : w'.ctrl.initPose = w.ctrl.initPose)
    (lanes : w'.ctrl.laneletMap = w.ctrl.laneletMap) (told : List (Stimulus R κ)) :
    trace (controller D T) w'.ctrl told = trace (controller D T) w.ctrl told :=
  trace_eq (P := Alike) (fun _ _ s alike => alike_react alike s)
    (idle_alike reached reached' idle idle' loc mode pose lanes) told

/-- Worlds with alike controllers that run on and are told the same put out the same,
    whatever requests are outstanding in either. -/
theorem alike_worlds {past past' whole whole' : History (World R κ) (Input R κ) (Output R κ)} {w w' v v' : World R κ}
    {inputs inputs' : List (Input R κ)} (alike : Alike w.ctrl w'.ctrl)
    (ran : exec (Strand.machine D T) past w inputs = .ok (whole, v))
    (ran' : exec (Strand.machine D T) past' w' inputs' = .ok (whole', v')) :
    ∃ newer newer', whole = newer ++ past ∧ whole' = newer' ++ past' ∧
      (told newer' = told newer → said newer' = said newer) := by
  obtain ⟨newer, split, traced⟩ := exec_trace ran
  obtain ⟨newer', split', traced'⟩ := exec_trace ran'
  refine ⟨newer, newer', split, split', fun same => ?_⟩
  have both := trace_eq (M := controller D T) (P := Alike) (fun _ _ s alike => alike_react alike s) alike (told newer)
  rw [← List.append_nil (told newer), traced [], ← same, traced' []] at both
  exact List.map_injective_iff.mpr (fun _ _ eq => Except.ok.inj eq) (by simpa [trace] using both)

end

section
attribute [local instance] streetMath

/-- The map after the two lanes of the street were looked up. -/
def streetSearched : LaneletMap ℚ :=
  [Call.FindNearestLane ⟨35 + 688 / 1000, 139 + 69010 / 100000⟩,
    Call.FindNearestLane ⟨35 + 688 / 1000, 139 + 69190 / 100000⟩].foldl (fun m call => call.after street m) .fresh

theorem searched_served : Reachable (server street) streetSearched := by
  obtain ⟨past, m, run, same⟩ := exists_run (M := server street) (s := .fresh)
    [.FindNearestLane ⟨35 + 688 / 1000, 139 + 69010 / 100000⟩, .FindNearestLane ⟨35 + 688 / 1000, 139 + 69190 / 100000⟩]
    rfl (fun _ m => decide (m = streetSearched)) (by decide +kernel)
  exact of_decide_eq_true same ▸ ⟨past, run⟩

/-- What an idle controller needs. -/
def latched (w : World ℚ Unit) : TripState × Option LocState × Option Bool × Pose ℚ × LaneletMap ℚ :=
  (w.ctrl.status.state, w.ctrl.currentLocState, w.ctrl.currentModeState, w.ctrl.initPose, w.ctrl.laneletMap)

/-- A controller that is new to the map, and one that cancelled a trip on its way to the
    pickup: they differ, but nothing that they are told tells them apart. -/
theorem idle_forgets_on_street : ∃ w w' : World ℚ Unit, w'.ctrl ≠ w.ctrl ∧
    ∀ told, trace (controller street {}) w'.ctrl told = trace (controller street {}) w.ctrl told := by
  obtain ⟨past, w, run, fresh⟩ := exists_run (M := (Strand.machine street {} : Machine (World ℚ Unit) _ _ _))
    (s := initialWorld streetSearched 0) (eachSecond 0 [.LocState .Initialized]) ⟨_, 0, searched_served, rfl⟩
    (fun _ w => decide (w.ctrl.engagingForPickup = true ∧
      latched w = (.Idle, some .Initialized, none, ⟨0, 0, 0, 0, 1⟩, streetSearched))) (by decide +kernel)
  obtain ⟨past', w', run', used⟩ := exists_run (M := (Strand.machine street {} : Machine (World ℚ Unit) _ _ _))
    (s := initialWorld .fresh 0) (tripOnStreet (some ()) ++ engagedOnStreet 22 0 ++ eachSecond 23 [.Cancel])
    fresh_starts
    (fun _ w => decide (w.ctrl.engagingForPickup = false ∧
      latched w = (.Idle, some .Initialized, none, ⟨0, 0, 0, 0, 1⟩, streetSearched))) (by decide +kernel)
  obtain ⟨flag, now⟩ := of_decide_eq_true fresh
  obtain ⟨flag', now'⟩ := of_decide_eq_true used
  simp only [latched, Prod.mk.injEq] at now now'
  obtain ⟨idle, loc, mode, pose, lanes⟩ := now
  obtain ⟨idle', loc', mode', pose', lanes'⟩ := now'
  refine ⟨w, w', fun same => ?_, fun told => ?_⟩
  · rw [same, flag] at flag'
    cases flag'
  · exact idle_forgets ⟨past, run⟩ ⟨past', run'⟩ idle idle' (loc'.trans loc.symm) (mode'.trans mode.symm)
      (pose'.trans pose.symm) (lanes'.trans lanes.symm) told

end
end AutowareAgent.Forgetting
