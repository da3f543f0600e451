import AutowareAgent.Strand
import AutowareAgent.TripSteps

/-!
The trip automaton: what the phases of a trip are for, without maps, poses and
clocks. `Advance` lists every move between phases with the signals that others
get; every step of the controller's machine is one of these moves.
-/
namespace AutowareAgent.Automaton
open AutowareAgent.Machines AutowareAgent.Lanes AutowareAgent.LaneCache AutowareAgent.Trips
open AutowareAgent.TripSteps AutowareAgent.Strand

/-- What the phases depend on: the state, the leg that an engagement is for, the
    stored route state, and whether both legs of a trip are held. -/
structure Phase where
  state : TripState
  forPickup : Bool
  route : Option RouteState
  held : Bool
  deriving DecidableEq, Repr

/-- What happens to the automaton. -/
inductive Event
  | Query
  | StartTrip
  | GoToPickup
  | Move
  | HandleMove
  | Cancel
  | Tick
  | RouteState (state : RouteState)
  | Message
  | ModeChanged
  | Acknowledge
  deriving DecidableEq, Repr

/-- The outputs that concern the automaton. -/
inductive Signal
  | Entered (state : TripState)
  | GoalAt (state : TripState)
  | ModeRequest
  | EngageRequest
  | PickupArrived
  | DropoffArrived
  | Answered (ok : Bool)
  deriving DecidableEq, Repr

/-- The states in which no trip is under way. -/
def planning : TripState → Bool
  | .Idle | .InitializingInMap | .QueryPublishingInitialPose | .QueryWaitingLocalisation | .QueryPublishingGoal
  | .QueryWaitingRoute | .QueryReadingEta | .RoutesReady => true
  | _ => false

/-- A signal of a query. -/
def Signal.planning : Signal → Bool
  | .Entered s | .GoalAt s => Automaton.planning s
  | .Answered _ => true
  | .ModeRequest | .EngageRequest | .PickupArrived | .DropoffArrived => false

/-- The moves of the automaton. -/
inductive Advance : Event → Phase → List Signal → Phase → Prop
  | quiet {p : Phase} : Advance .Tick p [] p
  | message {p : Phase} : Advance .Message p [] p
  | routeState {p : Phase} (s : RouteState) : Advance (.RouteState s) p [] { p with route := some s }
  | refuse {ev : Event} {p : Phase} (asked : ev ∈ [.Query, .GoToPickup, .Move, .HandleMove]) :
      Advance ev p [.Answered false] p
  | plan {ev : Event} {p p' : Phase} {sigs : List Signal}
      (asked : ev = .Query ∧ p.state = .Idle ∨ ev = .Tick ∧ p.state ≠ .Idle ∧ p.state ≠ .RoutesReady)
      (before : planning p.state = true) (after : planning p'.state = true) (flag : p'.forPickup = p.forPickup)
      (signals : ∀ s ∈ sigs, s.planning = true) : Advance ev p sigs p'
  | refuseTrip {p : Phase} :
      Advance .StartTrip p [.Answered false] { p with forPickup := true, route := none }
  | failTrip {p : Phase} (ready : p.state = .RoutesReady ∨ p.state = .Idle) (held : p.held = true) :
      Advance .StartTrip p [.Entered .Failed, .Answered false]
        { p with state := .Failed, forPickup := true, route := none }
  | acceptTrip {p : Phase} (ready : p.state = .RoutesReady ∨ p.state = .Idle) (held : p.held = true) :
      Advance .StartTrip p [.Entered .WaitingForPickupStart, .Answered true]
        { p with state := .WaitingForPickupStart, forPickup := true, route := none }
  | goToPickup {ev : Event} {p : Phase} (asked : ev = .GoToPickup ∨ ev = .HandleMove)
      (waiting : p.state = .WaitingForPickupStart) :
      Advance ev p [.Entered .PublishingInitialPose, .Answered true]
        { p with state := .PublishingInitialPose, route := none }
  | failMove {ev : Event} {p : Phase} (asked : ev = .Move ∨ ev = .HandleMove) (waiting : p.state = .WaitingForMove) :
      Advance ev p [.Entered .Failed, .Answered false] { p with state := .Failed }
  | move {ev : Event} {p : Phase} (asked : ev = .Move ∨ ev = .HandleMove) (waiting : p.state = .WaitingForMove) :
      Advance ev p [.GoalAt .WaitingForMove, .Entered .Engaging, .Answered true]
        { p with state := .Engaging, forPickup := false, route := none }
  | cancel {p : Phase} : Advance .Cancel p [] ⟨.Idle, false, none, false⟩
  | publishPose {p : Phase} (publishing : p.state = .PublishingInitialPose) :
      Advance .Tick p [.Entered .WaitingLocalisation] { p with state := .WaitingLocalisation }
  | publishGoal {p : Phase} (localised : p.state = .WaitingLocalisation) :
      Advance .Tick p [.GoalAt .WaitingLocalisation, .Entered .Engaging] { p with state := .Engaging }
  | requestMode {p : Phase} (engaging : p.state = .Engaging) : Advance .Tick p [.ModeRequest] p
  | arrivePickup {p : Phase} (driving : p.state = .DrivingToPickup) (arrived : p.route = some .Arrived) :
      Advance .Tick p [.PickupArrived, .Entered .WaitingForMove] { p with state := .WaitingForMove, route := none }
  | arriveDropoff {p : Phase} (driving : p.state = .Running) (arrived : p.route = some .Arrived) :
      Advance .Tick p [.DropoffArrived, .Entered .Completed] { p with state := .Completed, route := none }
  | modeChanged {p : Phase} : Advance .ModeChanged p [.EngageRequest] p
  | late {p : Phase} (elsewhere : p.state ≠ .Engaging) : Advance .Acknowledge p [] p
  | engagePickup {p : Phase} (engaging : p.state = .Engaging) (leg : p.forPickup = true) :
      Advance .Acknowledge p [.Entered .DrivingToPickup] { p with state := .DrivingToPickup }
  | engageTrip {p : Phase} (engaging : p.state = .Engaging) (leg : p.forPickup = false) :
      Advance .Acknowledge p [.Entered .Running] { p with state := .Running }

/-- The goal of a pickup leg is published by a tick that waits for localisation. -/
theorem advance_pickupGoal {ev : Event} {p p' : Phase} {sigs : List Signal} (moved : Advance ev p sigs p')
    (goal : .GoalAt .WaitingLocalisation ∈ sigs) : ev = .Tick ∧ p.state = .WaitingLocalisation := by
  cases moved with
  | publishGoal localised => exact ⟨rfl, localised⟩
  | plan _ _ _ _ planned => cases planned _ goal
  | _ => simp at goal

/-- The goal of a trip leg is published by a move. -/
theorem advance_tripGoal {ev : Event} {p p' : Phase} {sigs : List Signal} (moved : Advance ev p sigs p')
    (goal : .GoalAt .WaitingForMove ∈ sigs) : (ev = .Move ∨ ev = .HandleMove) ∧ p.state = .WaitingForMove := by
  cases moved with
  | move asked waiting => exact ⟨asked, waiting⟩
  | plan _ _ _ _ planned => cases planned _ goal
  | _ => simp at goal

/-! ### The controller as the automaton sees it -/

section
variable {R κ : Type}

def phaseOf (c : TripController R κ) : Phase where
  state := c.status.state
  forPickup := c.engagingForPickup
  route := c.currentRouteState
  held := c.pickupRoute.isSome && c.tripRoute.isSome

def signalOf : Output R κ → Option Signal
  | .StateChange _ next => some (.Entered next)
  | .Goal state _ => some (.GoalAt state)
  | .ModeRequest => some .ModeRequest
  | .PickupArrived => some .PickupArrived
  | .DropoffArrived => some .DropoffArrived
  | .Returned ok => some (.Answered ok)
  | .EngageRequest engage => if engage then some .EngageRequest else none
  | .InitialPose _ | .QueryResult _ _ => none

def signals (os : List (Output R κ)) : List Signal := os.filterMap signalOf

def operationEvent : Operation R κ → Event
  | .QueryEta _ _ _ => .Query
  | .StartTrip => .StartTrip
  | .GoToPickup => .GoToPickup
  | .Move => .Move
  | .HandleMoveCommand => .HandleMove
  | .Cancel => .Cancel
  | .Tick => .Tick
  | .RouteState state => .RouteState state
  | .SetCurrentGps _ | .LocState _ | .ModeState _ | .Route _ | .Eta _ _ => .Message

def eventOf (w : World R κ) : Input R κ → Event
  | .Handle _ op => operationEvent op
  | .ModeResponse seq success => if success = true ∧ seq ∈ w.modeCalls then .ModeChanged else .Message
  | .EngageResponse _ _ => .Message
  | .Acknowledge _ seq => if seq ∈ w.acks then .Acknowledge else .Message

theorem eventOf_tick {w : World R κ} {i : Input R κ} (event : eventOf w i = .Tick) : ∃ e, i = .Handle e .Tick := by
  cases i with
  | Handle e op => cases op <;> simp_all [eventOf, operationEvent]
  | ModeResponse seq success => simp only [eventOf] at event; split at event <;> cases event
  | EngageResponse seq code => cases event
  | Acknowledge e seq => simp only [eventOf] at event; split at event <;> cases event

theorem eventOf_move {w : World R κ} {i : Input R κ} (event : eventOf w i = .Move ∨ eventOf w i = .HandleMove) :
    ∃ e, i = .Handle e .Move ∨ i = .Handle e .HandleMoveCommand := by
  cases i with
  | Handle e op => cases op <;> simp_all [eventOf, operationEvent]
  | ModeResponse seq success => simp only [eventOf] at event; split at event <;> simp at event
  | EngageResponse seq code => simp [eventOf] at event
  | Acknowledge e seq => simp only [eventOf] at event; split at event <;> simp at event

theorem mem_signals {o : Output R κ} {os : List (Output R κ)} {s : Signal} (member : o ∈ os)
    (made : signalOf o = some s) : s ∈ signals os :=
  List.mem_filterMap.mpr ⟨o, member, made⟩

@[simp] theorem signals_nil : signals ([] : List (Output R κ)) = [] := rfl

@[simp] theorem signals_append (os os' : List (Output R κ)) : signals (os ++ os') = signals os ++ signals os' :=
  List.filterMap_append

@[simp] theorem signals_cons (o : Output R κ) (os : List (Output R κ)) :
    signals (o :: os) = (signalOf o).toList ++ signals os := by
  unfold signals
  cases made : signalOf o <;> simp [made]

@[simp] theorem phaseOf_settled (c : TripController R κ) : phaseOf c.settled = phaseOf c := rfl

@[simp] theorem phaseOf_emit (o : Output R κ) (c : TripController R κ) : phaseOf (c.emit o) = phaseOf c := rfl

@[simp] theorem phaseOf_transitionTo (c : TripController R κ) (now : Int) (next : TripState) :
    phaseOf (c.transitionTo now next) = { phaseOf c with state := next } := by
  simp [phaseOf]

@[simp] theorem phaseOf_returning (r : TripController R κ × Bool) : phaseOf (returning r) = phaseOf r.1 := rfl

@[simp] theorem signals_returning (r : TripController R κ × Bool) :
    signals (returning r).out = signals r.1.out ++ [.Answered r.2] := by
  simp [returning, TripController.emit, signalOf]

@[simp] theorem signals_republish (c : TripController R κ) (now : Int) (pose : Pose R) :
    signals (c.republishInitialPose now pose).out = signals c.out := by
  unfold TripController.republishInitialPose
  split <;> simp [TripController.doPublishInitialPose, TripController.emit, signalOf]

/-- A change to a state that the controller is not in is announced. -/
theorem signals_transitionTo {c : TripController R κ} {now : Int} {next : TripState}
    (elsewhere : c.status.state ≠ next) : signals (c.transitionTo now next).out = signals c.out ++ [.Entered next] := by
  simp [elsewhere, signalOf]

/-! ### Queries -/

/-- What a step of a query leaves of the phase, and what it signals. -/
structure Planned (c c' : TripController R κ) : Prop where
  state : planning c'.status.state = true
  flag : c'.engagingForPickup = c.engagingForPickup
  signals : ∀ s ∈ signals c'.out, s ∈ Automaton.signals c.out ∨ s.planning = true

theorem planned_refl {c : TripController R κ} (before : planning c.status.state = true) : Planned c c :=
  ⟨before, rfl, fun _ => .inl⟩

theorem planned_trans {c c' c'' : TripController R κ} (first : Planned c c') (second : Planned c' c'') :
    Planned c c'' := by
  refine ⟨second.state, second.flag.trans first.flag, fun s member => ?_⟩
  rcases second.signals s member with older | planned
  · exact first.signals s older
  · exact .inr planned

theorem planned_transitionTo (c : TripController R κ) (now : Int) (next : TripState) (after : planning next = true) :
    Planned c (c.transitionTo now next) := by
  refine ⟨by simpa using after, by simp, ?_⟩
  by_cases same : c.status.state = next
  · simp +contextual [same]
  · rw [signals_transitionTo same]
    simp +contextual [or_imp, Signal.planning, after]

/-- An initial pose, or a goal of the query, in between. -/
theorem planned_publish {c : TripController R κ} (before : planning c.status.state = true) (pose : Pose R) :
    Planned c (c.doPublishInitialPose pose) ∧ Planned c (c.doPublishGoal pose) := by
  constructor
  · refine ⟨before, rfl, fun s member => .inl ?_⟩
    simpa [TripController.doPublishInitialPose, TripController.emit, signalOf] using member
  · refine ⟨before, rfl, fun s member => ?_⟩
    simp [TripController.doPublishGoal, TripController.emit, signalOf] at member
    rcases member with older | rfl
    · exact .inl older
    · exact .inr before

/-! ### Steps that look up no lane -/

theorem planned_republish {c : TripController R κ} (before : planning c.status.state = true) (now : Int)
    (pose : Pose R) : Planned c (c.republishInitialPose now pose) := by
  unfold TripController.republishInitialPose
  split
  · have published := (planned_publish before pose).1
    exact ⟨published.state, published.flag, published.signals⟩
  · exact planned_refl before

theorem planned_tickInitializingInMap {c : TripController R κ} (before : planning c.status.state = true) (now : Int) :
    Planned c (c.tickInitializingInMap now) := by
  unfold TripController.tickInitializingInMap
  split
  · exact planned_republish before now c.initPose
  · exact planned_transitionTo c _ _ rfl

theorem planned_tickQueryPublishingGoal {c : TripController R κ} (before : planning c.status.state = true)
    (now : Int) : Planned c (c.tickQueryPublishingGoal now) := by
  have published := (planned_publish before c.status.goalPose).2
  have entered := planned_transitionTo
    { c.doPublishGoal c.status.goalPose with routeReceived := false, currentRouteState := none } now
    .QueryWaitingRoute rfl
  exact planned_trans published ⟨entered.state, entered.flag, entered.signals⟩

section
variable (c : TripController R κ) (now : Int)

/-- A tick in which the vehicle has, or has not, arrived. -/
theorem tickDriving_cases (arrived : Output R κ) (next : TripState) :
    c.tickDriving now arrived next = c ∨
    (c.currentRouteState = some .Arrived ∧
      c.tickDriving now arrived next = { c.emit arrived with currentRouteState := none }.transitionTo now next) := by
  unfold TripController.tickDriving
  split
  · rename_i there
    exact .inr ⟨there, rfl⟩
  · exact .inl rfl

end

theorem doEngage_cases (e : Env R) (c : TripController R κ) :
    c.doEngage e = c ∨ c.doEngage e = c.emit .ModeRequest := by
  unfold TripController.doEngage
  split
  · exact .inl rfl
  · split
    · exact .inl rfl
    · exact .inr rfl

/-- A move of the automaton is one of the controller when the controller sends
    its signals and ends in its phase. -/
theorem Advance.to {ev : Event} {p p' : Phase} {sigs : List Signal} {c' : TripController R κ}
    (moved : Advance ev p sigs p') (sent : signals c'.out = sigs) (ends : phaseOf c' = p') :
    Advance ev p (signals c'.out) (phaseOf c') := by
  rw [sent, ends]
  exact moved

theorem refuse_advance {ev : Event} {c : TripController R κ} (quiet : c.out = [])
    (asked : ev ∈ [.Query, .GoToPickup, .Move, .HandleMove]) :
    Advance ev (phaseOf c) (signals (returning (c, false)).out) (phaseOf (returning (c, false))) :=
  (Advance.refuse asked).to (by simp [quiet]) (by simp)

theorem goToPickup_advance {ev : Event} {now : Int} {c : TripController R κ} (quiet : c.out = [])
    (asked : ev = .GoToPickup ∨ ev = .HandleMove) :
    Advance ev (phaseOf c) (signals (returning (c.goToPickup now)).out) (phaseOf (returning (c.goToPickup now))) := by
  unfold TripController.goToPickup
  split
  · exact refuse_advance quiet (by rcases asked with rfl | rfl <;> simp)
  · rename_i waiting
    have waiting : c.status.state = .WaitingForPickupStart := by simpa using waiting
    refine (Advance.goToPickup asked waiting).to ?_ ?_
    · simp [quiet, waiting, signalOf]
    · rw [phaseOf_returning]
      simp [phaseOf]

/-- What an engage response posts is a move of the automaton. -/
theorem onEngaged_advance {now : Int} {c : TripController R κ} (quiet : c.out = []) :
    Advance .Acknowledge (phaseOf c) (signals (c.onEngaged now).out) (phaseOf (c.onEngaged now)) := by
  unfold TripController.onEngaged
  split
  · rename_i engaging
    cases leg : c.engagingForPickup with
    | true =>
      simpa [quiet, engaging, signalOf, phaseOf, leg] using Advance.engagePickup (p := phaseOf c) engaging leg
    | false =>
      simpa [quiet, engaging, signalOf, phaseOf, leg] using Advance.engageTrip (p := phaseOf c) engaging leg
  · rename_i elsewhere
    simpa [quiet] using Advance.late (p := phaseOf c) elsewhere

end

section
variable {R κ : Type} [Zero R]

theorem planned_failQuery (c : TripController R κ) (now : Int) (reason : String) :
    Planned c (c.failQuery now reason) := by
  rw [failQuery_eq]
  refine ⟨rfl, rfl, fun s member => .inl ?_⟩
  cases calls : c.queryCb <;> simpa [calls, signalOf] using member

theorem planned_tickQueryWaitingLocalisation {T : TripTimings} {c : TripController R κ}
    (before : planning c.status.state = true) (now : Int) : Planned c (c.tickQueryWaitingLocalisation T now) := by
  have republished := planned_republish before now c.status.startPose
  unfold TripController.tickQueryWaitingLocalisation
  simp only
  split
  · split
    · exact planned_trans republished (planned_failQuery _ _ _)
    · exact republished
  · exact planned_transitionTo c _ _ rfl

theorem planned_tickQueryWaitingRoute {T : TripTimings} {c : TripController R κ}
    (before : planning c.status.state = true) (now : Int) : Planned c (c.tickQueryWaitingRoute T now) := by
  rcases tickQueryWaitingRoute_cases T now c with ⟨_, set⟩ | ⟨c₁, _, again, ended⟩
  · rw [set]
    have entered := planned_transitionTo { c with etaReceived := false } now .QueryReadingEta rfl
    exact ⟨entered.state, entered.flag, entered.signals⟩
  · have waited : Planned c c₁ := by
      rcases again with rfl | rfl
      · exact planned_refl before
      · have published := (planned_publish before c.status.goalPose).2
        exact ⟨published.state, published.flag, published.signals⟩
    rcases ended with ⟨_, same⟩ | ⟨_, reason, failed⟩
    · rw [same]
      exact waited
    · rw [failed]
      exact planned_trans waited (planned_failQuery _ _ _)

theorem cancel_advance {now : Int} {c : TripController R κ} (quiet : c.out = []) :
    Advance .Cancel (phaseOf c) (signals (c.cancel now).out) (phaseOf (c.cancel now)) := by
  have cancelled : phaseOf (c.cancel now) = ⟨.Idle, false, none, false⟩ ∧ signals (c.cancel now).out = [] := by
    unfold TripController.cancel
    cases start : c.laneletMap.defaultStart <;>
      simp [start, TripController.doPublishInitialPose, TripController.emit, quiet, signalOf, phaseOf,
        TripStatus.initial]
  rw [cancelled.1, cancelled.2]
  exact .cancel

/-! ### Steps that look up lanes -/

variable [Add R] [Sub R] [Mul R] [Div R] [NatCast R] [LT R] [DecidableLT R] [CMath R]

theorem planned_startQueryLeg {D : MapData R} {now : Int} {fromGps toGps : GPSCoordinate R}
    {c c' : TripController R κ} (ran : c.startQueryLeg D now fromGps toGps = .ok c') : Planned c c' := by
  rcases startQueryLeg_cases ran with ⟨m, reason, _, _, rfl⟩ | ⟨m, fromLane, toLane, _, _, _, _, _, rfl⟩
  · have failed := planned_failQuery { c with laneletMap := m } now reason
    exact ⟨failed.state, failed.flag, failed.signals⟩
  · have entered := planned_transitionTo
      { c with laneletMap := m, status := legStatus D fromLane toLane toGps c.status } now
      .QueryPublishingInitialPose rfl
    exact ⟨entered.state, entered.flag, entered.signals⟩

theorem planned_finishQueryLeg {D : MapData R} {now : Int} {c c' : TripController R κ}
    (ran : c.finishQueryLeg D now = .ok c') : Planned c c' := by
  rcases finishQueryLeg_cases ran with ⟨_, goalLaneId, _, started⟩ | ⟨_, rfl⟩
  · have leg := planned_startQueryLeg started
    exact ⟨leg.state, leg.flag, leg.signals⟩
  · have entered := planned_transitionTo { c.bankTripLeg.callQueryCb with status := .initial } now
      .RoutesReady rfl
    refine ⟨entered.state, entered.flag.trans (by simp [callQueryCb_eq, TripController.bankTripLeg]), ?_⟩
    intro s member
    rcases entered.signals s member with older | planned
    · refine .inl ?_
      cases calls : c.queryCb <;>
        simpa [callQueryCb_eq, TripController.bankTripLeg, calls, signalOf] using older
    · exact .inr planned

theorem planned_tickQueryReadingEta {D : MapData R} {T : TripTimings} {now : Int} {c c' : TripController R κ}
    (before : planning c.status.state = true) (ran : c.tickQueryReadingEta D T now = .ok c') : Planned c c' := by
  unfold TripController.tickQueryReadingEta at ran
  split at ran
  · exact planned_finishQueryLeg ran
  · split at ran
    · have finished := planned_finishQueryLeg ran
      exact ⟨finished.state, finished.flag, finished.signals⟩
    · cases ran
      exact planned_refl before

/-- A tick before the trip is a step of the query, or does nothing. -/
theorem tick_planned {D : MapData R} {T : TripTimings} {e : Env R} {c c' : TripController R κ}
    (before : planning c.status.state = true) (ran : c.tick D T e = .ok c') :
    c' = c ∨ (c.status.state ≠ .Idle ∧ c.status.state ≠ .RoutesReady ∧ Planned c c') := by
  have whole := before
  unfold TripController.tick at ran
  cases state : c.status.state <;> rw [state] at ran before <;> simp only [Except.ok.injEq] at ran
  case Idle | RoutesReady => exact .inl ran.symm
  all_goals try cases before
  all_goals refine .inr ⟨by simp, by simp, ?_⟩
  case QueryReadingEta => exact planned_tickQueryReadingEta whole ran
  all_goals subst ran
  case InitializingInMap => exact planned_tickInitializingInMap whole e.now
  case QueryPublishingInitialPose =>
    exact planned_trans (planned_publish whole c.status.startPose).1 (planned_transitionTo _ _ _ rfl)
  case QueryWaitingLocalisation => exact planned_tickQueryWaitingLocalisation whole e.now
  case QueryPublishingGoal => exact planned_tickQueryPublishingGoal whole e.now
  case QueryWaitingRoute => exact planned_tickQueryWaitingRoute whole e.now

/-! ### Operations -/

/-- A tick on the way is a move of the automaton. -/
theorem tick_advance {D : MapData R} {T : TripTimings} {e : Env R} {c c' : TripController R κ} (quiet : c.out = [])
    (ran : c.tick D T e = .ok c') : Advance .Tick (phaseOf c) (signals c'.out) (phaseOf c') := by
  have rest : Advance .Tick (phaseOf c) (signals c.out) (phaseOf c) := Advance.quiet.to (by simp [quiet]) rfl
  by_cases before : planning c.status.state = true
  · rcases tick_planned before ran with rfl | ⟨busy, waiting, planned⟩
    · exact rest
    · refine .plan (.inr ⟨rfl, busy, waiting⟩) before planned.state planned.flag fun s member => ?_
      rcases planned.signals s member with older | planned
      · rw [quiet] at older
        cases older
      · exact planned
  · unfold TripController.tick at ran
    cases state : c.status.state <;> rw [state] at ran before <;> simp only [Except.ok.injEq] at ran
    all_goals try exact absurd rfl before
    all_goals subst ran
    case WaitingForPickupStart | WaitingForMove | Completed | Cancelled | Failed => exact rest
    case PublishingInitialPose =>
      refine (Advance.publishPose state).to ?_ ?_ <;>
        simp [TripController.tickPublishingInitialPose, TripController.doPublishInitialPose, TripController.emit,
          quiet, state, signalOf, phaseOf]
    case WaitingLocalisation =>
      unfold TripController.tickWaitingLocalisation
      split
      · refine Advance.quiet.to (by simp [quiet]) ?_
        unfold TripController.republishInitialPose
        split <;> rfl
      · refine (Advance.publishGoal state).to ?_ ?_ <;>
          simp [TripController.doPublishGoal, TripController.emit, quiet, state, signalOf, phaseOf]
    case Engaging =>
      unfold TripController.tickEngaging
      split
      · rcases doEngage_cases e c with held | asked
        · rw [held]
          exact rest
        · rw [asked]
          exact (Advance.requestMode state).to (by simp [TripController.emit, quiet, signalOf]) rfl
      · exact rest
    case DrivingToPickup =>
      unfold TripController.tickDrivingToPickup
      rcases tickDriving_cases c e.now .PickupArrived .WaitingForMove with same | ⟨there, arrived⟩
      · rw [same]
        exact rest
      · rw [arrived]
        refine (Advance.arrivePickup state there).to ?_ ?_ <;>
          simp [TripController.emit, quiet, state, signalOf, phaseOf]
    case Running =>
      unfold TripController.tickRunning
      rcases tickDriving_cases c e.now .DropoffArrived .Completed with same | ⟨there, arrived⟩
      · rw [same]
        exact rest
      · rw [arrived]
        refine (Advance.arriveDropoff state there).to ?_ ?_ <;>
          simp [TripController.emit, quiet, state, signalOf, phaseOf]

theorem startTrip_advance {D : MapData R} {now : Int} {c : TripController R κ} {r : TripController R κ × Bool}
    (quiet : c.out = []) (ran : c.startTrip D now = .ok r) :
    Advance .StartTrip (phaseOf c) (signals (returning r).out) (phaseOf (returning r)) := by
  rcases startTrip_cases ran with rfl | ⟨pickup, trip, m, lane, banked, kept, ready, _, rfl⟩
  · exact Advance.refuseTrip.to (by simp [quiet]) rfl
  · have held : (phaseOf c).held = true := by simp [phaseOf, banked, kept]
    have elsewhere : c.status.state ≠ .Failed ∧ c.status.state ≠ .WaitingForPickupStart := by
      rcases ready with state | state <;> simp [state]
    cases lane with
    | none =>
      refine (Advance.failTrip ready held).to ?_ ?_
      · simp [quiet, elsewhere, signalOf]
      · rw [phaseOf_returning]
        simp [phaseOf]
    | some lane =>
      refine (Advance.acceptTrip ready held).to ?_ ?_
      · simp [TripController.acceptTrip, quiet, elsewhere, signalOf]
      · rw [phaseOf_returning]
        simp [TripController.acceptTrip, phaseOf]

theorem move_advance {ev : Event} {D : MapData R} {now : Int} {c : TripController R κ}
    {r : TripController R κ × Bool} (quiet : c.out = []) (asked : ev = .Move ∨ ev = .HandleMove)
    (ran : c.move D now = .ok r) :
    Advance ev (phaseOf c) (signals (returning r).out) (phaseOf (returning r)) := by
  have fails : ∀ m, c.status.state = .WaitingForMove →
      Advance ev (phaseOf c) (signals (returning ({ c with laneletMap := m }.transitionTo now .Failed, false)).out)
        (phaseOf (returning ({ c with laneletMap := m }.transitionTo now .Failed, false))) := by
    intro m waiting
    refine (Advance.failMove asked waiting).to ?_ ?_
    · simp [quiet, waiting, signalOf]
    · rw [phaseOf_returning]
      simp [phaseOf]
  rcases move_cases ran with ⟨_, rfl⟩ | ⟨waiting, _, rfl⟩ | ⟨trip, laneId, m, lane, waiting, _, _, _, rfl⟩
  · exact refuse_advance quiet (by rcases asked with rfl | rfl <;> simp)
  · exact fails c.laneletMap waiting
  · cases lane with
    | none => exact fails m waiting
    | some lane =>
      refine (Advance.move asked waiting).to ?_ ?_
      · simp [TripController.startTripLeg, TripController.doPublishGoal, TripController.emit, quiet, signalOf, waiting]
      · rw [phaseOf_returning]
        simp [TripController.startTripLeg, TripController.doPublishGoal, TripController.emit, phaseOf]

theorem queryEta_advance {D : MapData R} {e : Env R} {start goal : GPSCoordinate R} {cb : Option κ}
    {c : TripController R κ} {r : TripController R κ × Bool} (quiet : c.out = [])
    (ran : c.queryEta D e start goal cb = .ok r) :
    Advance .Query (phaseOf c) (signals (returning r).out) (phaseOf (returning r)) := by
  rcases queryEta_cases ran with ⟨no, reason, refused⟩ | ⟨yes, idle, vehiclePose, _, started⟩
  · obtain ⟨c', ok⟩ := r
    obtain rfl : ok = false := no
    obtain rfl : c' = _ := refused
    refine (Advance.refuse (by simp)).to ?_ ?_ <;> cases cb
    · simp [TripController.refuseQuery, quiet]
    · simp [TripController.refuseQuery, TripController.emit, quiet, signalOf]
    · rfl
    · rfl
  · have planned := planned_startQueryLeg started
    refine .plan (.inl ⟨rfl, idle⟩) (by simp [phaseOf, idle, planning]) planned.state planned.flag fun s member => ?_
    simp only [signals_returning, yes, List.mem_append, List.mem_singleton] at member
    rcases member with member | rfl
    · rcases planned.signals s member with older | planned
      · simp [TripController.openQuery, quiet] at older
      · exact planned
    · rfl

/-- Every operation is a move of the automaton. -/
theorem apply_advance {D : MapData R} {T : TripTimings} {e : Env R} {op : Operation R κ}
    {c c' : TripController R κ} (quiet : c.out = []) (ran : op.apply D T e c = .ok c') :
    Advance (operationEvent op) (phaseOf c) (signals c'.out) (phaseOf c') := by
  cases op with
  | QueryEta start goal cb =>
    obtain ⟨r, queried, rfl⟩ := map_ok ran
    exact queryEta_advance quiet queried
  | StartTrip =>
    obtain ⟨r, started, rfl⟩ := map_ok ran
    exact startTrip_advance quiet started
  | GoToPickup =>
    cases ran
    exact goToPickup_advance quiet (.inl rfl)
  | Move =>
    obtain ⟨r, moved, rfl⟩ := map_ok ran
    exact move_advance quiet (.inl rfl) moved
  | HandleMoveCommand =>
    obtain ⟨r, handled, rfl⟩ := map_ok ran
    rcases handleMoveCommand_cases handled with ⟨_, rfl⟩ | ⟨_, moved⟩ | rfl
    · exact goToPickup_advance quiet (.inr rfl)
    · exact move_advance quiet (.inr rfl) moved
    · exact refuse_advance quiet (by simp [operationEvent])
  | Cancel =>
    cases ran
    exact cancel_advance quiet
  | Tick => exact tick_advance quiet ran
  | RouteState s =>
    cases ran
    exact (Advance.routeState s).to (by simp [quiet]) rfl
  | SetCurrentGps gps =>
    cases ran
    exact Advance.message.to (by simp [TripController.setCurrentGps, quiet]) rfl
  | LocState s =>
    cases ran
    exact Advance.message.to (by simp [quiet]) rfl
  | ModeState available =>
    cases ran
    exact Advance.message.to (by simp [quiet]) rfl
  | Route route =>
    cases ran
    exact Advance.message.to (by simp [TripController.onRouteReceived, quiet]) rfl
  | Eta distanceM timeSeconds =>
    cases ran
    have same : phaseOf (c.injectEta distanceM timeSeconds) = phaseOf c ∧
        (c.injectEta distanceM timeSeconds).out = [] := by
      unfold TripController.injectEta
      split <;> exact ⟨rfl, quiet⟩
    exact Advance.message.to (by simp [same]) same.1

/-! ### Runs -/

omit [Add R] [Sub R] [Mul R] [Div R] [LT R] [DecidableLT R] [CMath R] in
/-- Where the controller starts. -/
theorem phaseOf_initial (m : LaneletMap R) (now : Int) :
    phaseOf (initialWorld (κ := κ) m now).ctrl = ⟨.Idle, true, none, false⟩ ∨
    phaseOf (initialWorld (κ := κ) m now).ctrl = ⟨.InitializingInMap, true, none, false⟩ := by
  simp only [initialWorld, phaseOf_settled, TripController.initializeInMap]
  split
  · exact .inl rfl
  · refine .inr ?_
    rw [phaseOf_transitionTo]
    rfl

/-- Between two steps the controller has nothing left to send. -/
theorem out_nil {D : MapData R} {T : TripTimings} {past : History (World R κ) (Input R κ) (Output R κ)}
    {w : World R κ} (run : Runs (machine D T) past w) : w.ctrl.out = [] := by
  refine run.invariant (I := fun _ w => w.ctrl.out = []) ?_ ?_
  · rintro s ⟨m, now, _, rfl⟩
    rfl
  · intro past s i os s' _ settled stepped
    rcases step_ctrl stepped with ⟨c, ended⟩ | ended
    · rw [ended]
      rfl
    · rw [ended]
      exact settled

/-- Every step of a run is a move of the automaton. -/
theorem step_advance {D : MapData R} {T : TripTimings} {past : History (World R κ) (Input R κ) (Output R κ)}
    {w w' : World R κ} {i : Input R κ} {os : List (Output R κ)} (run : Runs (machine D T) past w)
    (stepped : step D T w i = .ok (w', os)) :
    Advance (eventOf w i) (phaseOf w.ctrl) (signals os) (phaseOf w'.ctrl) := by
  have quiet := out_nil run
  cases i with
  | Handle e op =>
    obtain ⟨c, applied, rfl, rfl⟩ := handle_cases stepped
    have moved := apply_advance quiet applied
    split <;> exact moved
  | ModeResponse seq success =>
    rcases modeResponse_cases stepped with ⟨unknown, rfl, rfl⟩ | ⟨_, rfl, rfl, rfl⟩ | ⟨waiting, rfl, rfl, rfl⟩
    · simp only [eventOf, unknown, and_false, if_false]
      exact .message
    · simp only [eventOf, Bool.false_eq_true, false_and, if_false]
      exact .message
    · simp only [eventOf, waiting, and_self, if_true]
      exact .modeChanged
  | EngageResponse seq code =>
    obtain ⟨rfl, same, _⟩ := engageResponse_cases stepped
    rw [same]
    exact .message
  | Acknowledge e seq =>
    rcases acknowledge_cases stepped with ⟨unknown, rfl, rfl⟩ | ⟨posted, rfl, rfl⟩
    · simp only [eventOf, unknown, if_false]
      exact .message
    · simp only [eventOf, posted, if_true]
      exact onEngaged_advance quiet

end
end AutowareAgent.Automaton
