import AutowareAgent.Reports

/-!
The vehicle's position in the status of the trip. Only the timer sets it, but a
cancel and every end of a query replace the whole status, so the position is
lost there until the timer sets it again. Every other operation leaves it alone.
-/
namespace AutowareAgent.Positions
open AutowareAgent.Machines AutowareAgent.Lanes AutowareAgent.LaneCache AutowareAgent.Trips AutowareAgent.TripSteps
open AutowareAgent.Strand AutowareAgent.Automaton AutowareAgent.Gateway AutowareAgent.Reports

section
variable {R κ : Type} [Zero R] [Add R] [Sub R] [Mul R] [Div R] [NatCast R] [LT R] [DecidableLT R] [CMath R]

/-! ### Where the position is reset -/

/-- A leg has no lane to start from, or reaches none near its end. -/
def Stranded (D : MapData R) (c : TripController R κ) (fromGps toGps : GPSCoordinate R) : Prop :=
  (∃ m, c.findStartLane D fromGps = .ok (none, m)) ∨
  ∃ lane m m' near, c.findStartLane D fromGps = .ok (some lane, m) ∧
    findNearestConnectedLane D toGps lane.laneId true m = .ok (none, m') ∧ findNearestLane D toGps m' = .ok near

instance (D : MapData R) (c : TripController R κ) (fromGps toGps : GPSCoordinate R) :
    Decidable (Stranded D c fromGps toGps) :=
  decidable_of_iff
    (∃ found, c.findStartLane D fromGps = .ok found ∧ (found.1 = none ∨ ∃ lane ∈ found.1,
      ∃ met, findNearestConnectedLane D toGps lane.laneId true found.2 = .ok met ∧ met.1 = none ∧
        ∃ near, findNearestLane D toGps met.2 = .ok near ∧ True)) <| by
    constructor
    · rintro ⟨⟨start, m⟩, found, nowhere | ⟨lane, somewhere, ⟨goal, m'⟩, met, lost, near, hinted, _⟩⟩
      · obtain rfl : start = none := nowhere
        exact .inl ⟨m, found⟩
      · obtain rfl : start = some lane := somewhere
        obtain rfl : goal = none := lost
        exact .inr ⟨lane, m, m', near, found, met, hinted⟩
    · rintro (⟨m, found⟩ | ⟨lane, m, m', near, found, met, hinted⟩)
      · exact ⟨(none, m), found, .inl rfl⟩
      · exact ⟨(some lane, m), found, .inr ⟨lane, rfl, (none, m'), met, rfl, near, hinted, trivial⟩⟩

/-- A tick ends the query: a wait is over, the trip leg is done, or it cannot begin. -/
def QueryEnds (D : MapData R) (T : TripTimings) (now : Int) (c : TripController R κ) : Prop :=
  c.status.state = .QueryWaitingLocalisation ∧ c.localised = false ∧ T.locTimeoutMs ≤ elapsedMs now c.stateEnteredAt ∨
  c.status.state = .QueryWaitingRoute ∧ c.currentRouteState ≠ some .Set ∧
    T.routeTimeoutMs ≤ elapsedMs now c.stateEnteredAt ∨
  c.status.state = .QueryReadingEta ∧ (c.etaReceived = true ∨ T.etaSettleMs ≤ elapsedMs now c.stateEnteredAt) ∧
    (c.currentLeg = .Trip ∨ c.currentLeg = .Pickup ∧ ∃ goalLaneId, stollId c.status.goalLaneletId = .ok goalLaneId ∧
      Stranded D (c.bankPickupLeg goalLaneId) c.queryStartGps c.queryGoalGps)

/-- The steps that replace the status as a whole. -/
def Resets (D : MapData R) (T : TripTimings) (c : TripController R κ) : Input R κ → Prop
  | .Handle _ .Cancel => True
  | .Handle e .Tick => QueryEnds D T e.now c
  | .Handle e (.QueryEta start goal cb) => c.status.state = .Idle ∧ ∃ vehiclePose,
      getCurrentVehiclePose D e.tf = some vehiclePose ∧ Stranded D (c.openQuery start goal cb) vehiclePose start
  | _ => False

/-- A step, if it does not fault, leaves the position alone. -/
def KeepsPosition (D : MapData R) (T : TripTimings) (w : World R κ) (i : Input R κ) : Prop :=
  ∀ w' os, Strand.step D T w i = .ok (w', os) → w'.ctrl.status.currentGps = w.ctrl.status.currentGps

/-- The position is reset where the condition holds, and kept elsewhere. -/
def ResetsWhen (cond : Prop) (c c' : TripController R κ) : Prop :=
  (cond → c'.status.currentGps = ⟨0, 0⟩) ∧ (¬ cond → c'.status.currentGps = c.status.currentGps)

section
variable {D : MapData R} {T : TripTimings} {c c' : TripController R κ} {cond : Prop}

omit [Add R] [Sub R] [Mul R] [Div R] [NatCast R] [LT R] [DecidableLT R] [CMath R] in
theorem ResetsWhen.resets (holds : cond) (reset : c'.status.currentGps = ⟨0, 0⟩) : ResetsWhen cond c c' :=
  ⟨fun _ => reset, fun fails => absurd holds fails⟩

omit [Add R] [Sub R] [Mul R] [Div R] [NatCast R] [LT R] [DecidableLT R] [CMath R] in
theorem ResetsWhen.keeps (fails : ¬ cond) (kept : c'.status.currentGps = c.status.currentGps) : ResetsWhen cond c c' :=
  ⟨fun holds => absurd holds fails, fun _ => kept⟩

omit [Add R] [Sub R] [Mul R] [Div R] [NatCast R] [LT R] [DecidableLT R] [CMath R] in
@[simp] theorem failQuery_position (now : Int) (reason : String) :
    (c.failQuery now reason).status.currentGps = ⟨0, 0⟩ := by
  rw [failQuery_eq]
  rfl

/-- A leg that is lost fails the query, any other begins. -/
theorem startQueryLeg_outcome {now : Int} {fromGps toGps : GPSCoordinate R}
    (ran : c.startQueryLeg D now fromGps toGps = .ok c') :
    (Stranded D c fromGps toGps ∧ ∃ m reason, c' = { c with laneletMap := m }.failQuery now reason) ∨
    (¬ Stranded D c fromGps toGps ∧ ∃ m fromLane toLane,
      c' = { c with laneletMap := m, status := legStatus D fromLane toLane toGps c.status }.transitionTo now
        .QueryPublishingInitialPose) := by
  unfold TripController.startQueryLeg at ran
  obtain ⟨⟨fromLane, m⟩, started, rest⟩ := bind_ok ran
  cases fromLane with
  | none =>
    cases rest
    exact .inl ⟨.inl ⟨m, started⟩, m, _, rfl⟩
  | some fromLane =>
    obtain ⟨⟨toLane, m'⟩, connected, rest⟩ := bind_ok rest
    cases toLane with
    | none =>
      obtain ⟨near, nearest, rest⟩ := bind_ok rest
      cases rest
      exact .inl ⟨.inr ⟨fromLane, m, m', near, started, connected, nearest⟩, near.2, _, rfl⟩
    | some toLane =>
      cases rest
      refine .inr ⟨?_, m', fromLane, toLane, rfl⟩
      rintro (⟨_, lost⟩ | ⟨_, _, _, _, again, lost, _⟩)
      · cases started.symm.trans lost
      · cases started.symm.trans again
        cases connected.symm.trans lost

/-- A leg that begins keeps the position. -/
theorem startQueryLeg_position {now : Int} {fromGps toGps : GPSCoordinate R}
    (ran : c.startQueryLeg D now fromGps toGps = .ok c') : ResetsWhen (Stranded D c fromGps toGps) c c' := by
  rcases startQueryLeg_outcome ran with ⟨lost, m, reason, rfl⟩ | ⟨goes, m, fromLane, toLane, rfl⟩
  · exact .resets lost (failQuery_position _ _)
  · exact .keeps goes (transitionTo_currentGps _ _ _)

/-- A leg that is lost is failed, without a fault. -/
theorem stranded_ok {fromGps toGps : GPSCoordinate R} (lost : Stranded D c fromGps toGps) (now : Int) :
    ∃ c', c.startQueryLeg D now fromGps toGps = .ok c' := by
  unfold TripController.startQueryLeg
  rcases lost with ⟨m, started⟩ | ⟨lane, m, m', near, started, connected, nearest⟩
  · simp only [started, bind, Except.bind]
    exact ⟨_, rfl⟩
  · simp only [started, connected, nearest, bind, Except.bind]
    exact ⟨_, rfl⟩

omit [Zero R] [Add R] [Sub R] [Mul R] [Div R] [NatCast R] [LT R] [DecidableLT R] [CMath R] in
theorem tickDriving_position (now : Int) (arrived : Output R κ) (next : TripState) :
    (c.tickDriving now arrived next).status.currentGps = c.status.currentGps := by
  unfold TripController.tickDriving
  split
  · rw [transitionTo_currentGps]
    rfl
  · rfl

/-- A tick resets the position where it ends the query. -/
theorem tick_position {e : Env R} (ran : c.tick D T e = .ok c') : ResetsWhen (QueryEnds D T e.now c) c c' := by
  have finishes : ∀ {d t : R}, c.status.state = .QueryReadingEta →
      (c.etaReceived = true ∨ T.etaSettleMs ≤ elapsedMs e.now c.stateEnteredAt) →
      ({ c with etaDistanceM := d, etaSeconds := t } : TripController R κ).finishQueryLeg D e.now = .ok c' →
      ResetsWhen (QueryEnds D T e.now c) c c' := by
    intro d t state measured finished
    rcases finishQueryLeg_cases finished with ⟨leg, goalLaneId, read, began⟩ | ⟨leg, rfl⟩
    · have position := startQueryLeg_position began
      refine ⟨fun ends => position.1 ?_, fun goes => position.2 fun lost => goes ?_⟩
      · rcases ends with ⟨other, _⟩ | ⟨other, _⟩ | ⟨_, _, trip | ⟨_, _, again, lost⟩⟩
        · cases state.symm.trans other
        · cases state.symm.trans other
        · cases leg.symm.trans trip
        · cases read.symm.trans again
          exact lost
      · exact .inr (.inr ⟨state, measured, .inr ⟨leg, goalLaneId, read, lost⟩⟩)
    · refine .resets (.inr (.inr ⟨state, measured, .inl leg⟩)) ?_
      rw [transitionTo_currentGps]
      rfl
  unfold TripController.tick at ran
  cases state : c.status.state <;> rw [state] at ran <;> simp only [Except.ok.injEq] at ran
  case QueryReadingEta =>
    unfold TripController.tickQueryReadingEta at ran
    split at ran
    · rename_i received
      exact finishes state (.inl received) ran
    · rename_i none
      split at ran
      · rename_i settled
        exact finishes state (.inr settled) ran
      · rename_i early
        cases ran
        refine .keeps ?_ rfl
        simp [QueryEnds, state, none, early]
  all_goals subst ran
  case QueryWaitingLocalisation =>
    unfold TripController.tickQueryWaitingLocalisation
    cases lost : c.localised with
    | true => exact .keeps (by simp [QueryEnds, state, lost]) (by simp)
    | false =>
      have again : (c.republishInitialPose e.now c.status.startPose).stateEnteredAt = c.stateEnteredAt ∧
          (c.republishInitialPose e.now c.status.startPose).status = c.status := by
        unfold TripController.republishInitialPose
        split <;> exact ⟨rfl, rfl⟩
      simp only [Bool.not_false, if_true, again.1]
      split
      · rename_i late
        exact .resets (.inl ⟨state, lost, late⟩) (failQuery_position _ _)
      · rename_i early
        exact .keeps (by simp [QueryEnds, state, early]) (by rw [again.2])
  case QueryWaitingRoute =>
    rcases tickQueryWaitingRoute_cases T e.now c with
      ⟨set, ticked⟩ | ⟨c₁, unset, published, ⟨early, ticked⟩ | ⟨late, reason, ticked⟩⟩
    · rw [ticked]
      exact .keeps (by simp [QueryEnds, state, set]) (transitionTo_currentGps _ _ _)
    · rw [ticked]
      refine .keeps (by simp [QueryEnds, state, Int.not_le.mpr early]) ?_
      rcases published with rfl | rfl <;> rfl
    · rw [ticked]
      exact .resets (.inr (.inl ⟨state, unset, late⟩)) (failQuery_position _ _)
  case InitializingInMap =>
    refine .keeps (by simp [QueryEnds, state]) ?_
    unfold TripController.tickInitializingInMap TripController.republishInitialPose
    split
    · split <;> rfl
    · simp
  case WaitingLocalisation =>
    refine .keeps (by simp [QueryEnds, state]) ?_
    unfold TripController.tickWaitingLocalisation TripController.republishInitialPose
    split
    · split <;> rfl
    · simp [TripController.doPublishGoal, TripController.emit]
  case Engaging =>
    refine .keeps (by simp [QueryEnds, state]) ?_
    unfold TripController.tickEngaging
    split
    · rcases doEngage_cases e c with held | asked
      · rw [held]
      · rw [asked]
        rfl
    · rfl
  case DrivingToPickup | Running => exact .keeps (by simp [QueryEnds, state]) (tickDriving_position _ _ _)
  case QueryPublishingInitialPose | QueryPublishingGoal | PublishingInitialPose =>
    exact .keeps (by simp [QueryEnds, state]) (transitionTo_currentGps _ _ _)
  all_goals exact .keeps (by simp [QueryEnds, state]) rfl

/-- Every operation but the timer's own resets the position exactly where it replaces the status. -/
theorem apply_position {e : Env R} {op : Operation R κ} (ran : op.apply D T e c = .ok c')
    (other : ∀ gps, op ≠ .SetCurrentGps gps) : ResetsWhen (Resets D T c (.Handle e op)) c c' := by
  have went : ∀ {now}, c' = returning (c.goToPickup now) → c'.status.currentGps = c.status.currentGps := by
    rintro now rfl
    rcases goToPickup_cases c now with same | ⟨_, went⟩
    · rw [same]
      rfl
    · rw [went]
      exact transitionTo_currentGps _ _ _
  have moved : ∀ {r now}, c.move D now = .ok r → c' = returning r →
      c'.status.currentGps = c.status.currentGps := by
    rintro r now moved rfl
    rcases move_cases moved with ⟨_, rfl⟩ | ⟨_, _, rfl⟩ | ⟨_, _, m, lane, _, _, _, _, rfl⟩
    · rfl
    · exact transitionTo_currentGps _ _ _
    · cases lane <;> exact transitionTo_currentGps _ _ _
  cases op with
  | SetCurrentGps gps => exact absurd rfl (other gps)
  | QueryEta start goal cb =>
    obtain ⟨r, queried, rfl⟩ := map_ok ran
    rcases queryEta_cases queried with ⟨no, reason, refused⟩ | ⟨_, idle, vehiclePose, located, started⟩
    · refine .keeps ?_ ?_
      · rintro ⟨idle, vehiclePose, located, lost⟩
        obtain ⟨c', started⟩ := stranded_ok lost e.now
        have opened : c.queryEta D e start goal cb = .ok (c', true) := by
          simp [TripController.queryEta, idle, located, started, bind, Except.bind, pure, Except.pure]
        cases opened.symm.trans queried
        cases no
      · change r.1.status.currentGps = _
        rw [refused]
        cases cb <;> rfl
    · have position := startQueryLeg_position started
      refine ⟨fun resets => position.1 ?_, fun goes => position.2 fun lost => goes ⟨idle, vehiclePose, located, lost⟩⟩
      obtain ⟨_, vehiclePose', again, lost⟩ := resets
      cases located.symm.trans again
      exact lost
  | StartTrip =>
    obtain ⟨r, started, rfl⟩ := map_ok ran
    refine .keeps (by simp [Resets]) ?_
    rcases startTrip_cases started with rfl | ⟨_, _, m, lane, _, _, _, _, rfl⟩
    · rfl
    · cases lane <;> exact transitionTo_currentGps _ _ _
  | GoToPickup =>
    cases ran
    exact .keeps (by simp [Resets]) (went rfl)
  | Move =>
    obtain ⟨r, asked, rfl⟩ := map_ok ran
    exact .keeps (by simp [Resets]) (moved asked rfl)
  | HandleMoveCommand =>
    obtain ⟨r, handled, rfl⟩ := map_ok ran
    refine .keeps (by simp [Resets]) ?_
    rcases handleMoveCommand_cases handled with ⟨_, rfl⟩ | ⟨_, asked⟩ | rfl
    · exact went rfl
    · exact moved asked rfl
    · rfl
  | Cancel =>
    cases ran
    refine .resets trivial ?_
    unfold TripController.cancel
    rw [transitionTo_currentGps]
    split <;> rfl
  | Tick => exact tick_position ran
  | Eta distanceM timeSeconds =>
    cases ran
    refine .keeps (by simp [Resets]) ?_
    unfold TripController.injectEta
    split <;> rfl
  | LocState _ | RouteState _ | ModeState _ | Route _ =>
    cases ran
    exact .keeps (by simp [Resets]) rfl

/-- A step that resets the position does not fault. -/
theorem resets_ok {e : Env R} {op : Operation R κ} (resets : Resets D T c (.Handle e op)) :
    ∃ c', op.apply D T e c = .ok c' := by
  cases op with
  | Cancel => exact ⟨_, rfl⟩
  | QueryEta start goal cb =>
    obtain ⟨idle, vehiclePose, located, lost⟩ := resets
    obtain ⟨c', started⟩ := stranded_ok lost e.now
    refine ⟨returning (c', true), ?_⟩
    simp [Operation.apply, TripController.queryEta, idle, located, started, bind, Except.bind, pure, Except.pure,
      Except.map]
  | Tick =>
    simp only [Operation.apply, TripController.tick]
    rcases resets with ⟨state, _⟩ | ⟨state, _⟩ | ⟨state, measured, leg⟩ <;> rw [state]
    · exact ⟨_, rfl⟩
    · exact ⟨_, rfl⟩
    · have finishes : ∀ d t : R, ∃ c', ({ c with etaDistanceM := d, etaSeconds := t } :
          TripController R κ).finishQueryLeg D e.now = .ok c' := by
        intro d t
        unfold TripController.finishQueryLeg
        rcases leg with trip | ⟨pickup, goalLaneId, read, lost⟩
        · simp only [trip]
          exact ⟨_, rfl⟩
        · have own : Stranded D (({ c with etaDistanceM := d, etaSeconds := t } :
              TripController R κ).bankPickupLeg goalLaneId) c.queryStartGps c.queryGoalGps := lost
          simp only [pickup, read]
          exact stranded_ok own e.now
      change ∃ c', c.tickQueryReadingEta D T e.now = .ok c'
      unfold TripController.tickQueryReadingEta
      rcases measured with received | settled
      · rw [if_pos received]
        exact finishes c.etaDistanceM c.etaSeconds
      · rw [if_pos settled]
        split
        · exact finishes c.etaDistanceM c.etaSeconds
        · exact finishes 0 0
  | _ => cases resets

/-- A step of the controller that does not set the position. -/
theorem step_position {w w' : World R κ} {i : Input R κ} {os : List (Output R κ)}
    (stepped : Strand.step D T w i = .ok (w', os)) (other : ∀ e gps, i ≠ .Handle e (.SetCurrentGps gps)) :
    ResetsWhen (Resets D T w.ctrl i) w.ctrl w'.ctrl := by
  cases i with
  | Handle e op =>
    obtain ⟨c, applied, _, rfl⟩ := handle_cases stepped
    have position := apply_position applied fun gps same => other e gps (by rw [same])
    split <;> exact position
  | ModeResponse seq success =>
    refine .keeps id ?_
    rcases modeResponse_cases stepped with ⟨_, rfl, _⟩ | ⟨_, _, rfl, _⟩ | ⟨_, _, _, rfl⟩ <;> rfl
  | EngageResponse seq code => exact .keeps id (by rw [(engageResponse_cases stepped).2.1])
  | Acknowledge e seq =>
    refine .keeps id ?_
    rcases acknowledge_cases stepped with ⟨_, rfl, _⟩ | ⟨_, _, rfl⟩
    · rfl
    · change (w.ctrl.onEngaged e.now).status.currentGps = _
      unfold TripController.onEngaged
      split
      · split <;> exact transitionTo_currentGps _ _ _
      · rfl

/-- A step keeps the position exactly where there is none to lose or the status is not replaced. -/
theorem keepsPosition_iff {w : World R κ} {i : Input R κ} (other : ∀ e gps, i ≠ .Handle e (.SetCurrentGps gps)) :
    KeepsPosition D T w i ↔ w.ctrl.status.currentGps = ⟨0, 0⟩ ∨ ¬ Resets D T w.ctrl i := by
  by_cases resets : Resets D T w.ctrl i
  · rw [or_iff_left (not_not.mpr resets)]
    constructor
    · intro keeps
      cases i with
      | Handle e op =>
        obtain ⟨c, applied⟩ := resets_ok resets
        obtain ⟨w', os, stepped⟩ : ∃ w' os, Strand.step D T w (.Handle e op) = .ok (w', os) := by
          simp only [Strand.step, applied, bind, Except.bind]
          split <;> exact ⟨_, _, rfl⟩
        rw [← keeps w' os stepped]
        exact (step_position stepped other).1 resets
      | _ => cases resets
    · intro lost w' os stepped
      rw [lost]
      exact (step_position stepped other).1 resets
  · exact iff_of_true (fun w' os stepped => (step_position stepped other).2 resets) (.inr resets)

end

/-! ### Runs of the application -/

/-- The position that a handler sets: the timer's, where the transform is available. -/
def setBy (D : MapData R) (e : Env R) : Job R → Option (GPSCoordinate R)
  | .Deliver .TickTimer => getCurrentVehiclePose D e.tf
  | _ => none

def setAt (D : MapData R) (m : Moment (App R) (Turn R) (Effect R)) : Option (GPSCoordinate R) :=
  match m.input with
  | .Run e => (started m).bind (setBy D e)
  | _ => none

/-- The latest position set. -/
def latest (D : MapData R) (past : History (App R) (Turn R) (Effect R)) : Option (GPSCoordinate R) :=
  past.findSome? (setAt D)

/-- A handler runs that replaces the status. -/
def Forgets (D : MapData R) (T : TripTimings) (m : Moment (App R) (Turn R) (Effect R)) : Prop :=
  ∃ e job, m.input = .Run e ∧ started m = some job ∧ ∃ i ∈ job.inputs D e, Resets D T m.pre.world.ctrl i

/-- The position that an event carries. -/
def carried : VehicleEvent R → Option (GPSCoordinate R)
  | .Location _ position | .Arrive _ _ position => some position
  | _ => none

/-- Once a position has been set, an event that is sent carries the latest one. -/
def LatestReported (D : MapData R) (past : History (App R) (Turn R) (Effect R))
    (m : Moment (App R) (Turn R) (Effect R)) : Prop :=
  ∀ gps, latest D past = some gps → ∀ report event, .Queued report event ∈ m.outputs →
    ∀ position, carried event = some position → position = gps

/-- The position that an act already carries. -/
def placed : Act R → Option (GPSCoordinate R)
  | .Make (.Location position) => some position
  | .Enqueue _ event => carried event
  | _ => none

section
variable {D : MapData R} {T : TripTimings} {w w' : World R Int64} {e : Env R} {job : Job R}
variable {os : List (Output R Int64)}

/-- A handler of one step. -/
theorem single_position {i : Input R Int64} (ran : burst (Strand.machine D T) w [i] = .ok (w', os))
    (other : ∀ e gps, i ≠ .Handle e (.SetCurrentGps gps)) (kept : ¬ Resets D T w.ctrl i) :
    w'.ctrl.status.currentGps = w.ctrl.status.currentGps := by
  obtain ⟨u, first, later, stepped, rest, rfl⟩ := burst_cons ran
  cases rest
  exact (step_position stepped other).2 kept

/-- A handler that does not replace the status leaves the position that it sets, or the one before. -/
theorem ran_position (reach : Reachable (Strand.machine D T) w)
    (ran : burst (Strand.machine D T) w (job.inputs D e) = .ok (w', os))
    (kept : ∀ i ∈ job.inputs D e, ¬ Resets D T w.ctrl i) :
    w'.ctrl.status.currentGps = (setBy D e job).getD w.ctrl.status.currentGps := by
  cases job with
  | GetTripStatus =>
    cases ran
    rfl
  | Deliver delivery =>
    cases delivery with
    | TickTimer =>
      have calm : ¬ Resets D T w.ctrl (.Handle e .Tick) := kept _ (by simp [Job.inputs])
      obtain ⟨past, run⟩ := reach
      obtain ⟨past', u, _, ticked, ⟨pose, rfl⟩ | ⟨gps, pose, set⟩⟩ := tickTimer_cases run ran
      · rw [setBy, pose]
        exact single_position ticked (by simp) calm
      · have still : ¬ Resets D T u.ctrl (.Handle e .Tick) := by
          rw [set]
          exact calm
        rw [single_position ticked (by simp) still, setBy, pose, set]
        rfl
    | _ => exact single_position ran (by simp) (kept _ (by simp [Job.inputs]))
  | _ => exact single_position ran (by simp) (kept _ (by simp [Job.inputs]))

omit [Zero R] [Add R] [Sub R] [Mul R] [Div R] [NatCast R] [LT R] [DecidableLT R] [CMath R] in
theorem tripStateCallback_placed (next : TripState) : ∀ act ∈ tripStateCallback (R := R) next, placed act = none := by
  cases next <;> simp [tripStateCallback, placed]

omit [Zero R] [Sub R] [LT R] [DecidableLT R] [CMath R] in
/-- The callbacks of a handler report the position that it leaves. -/
theorem callbacks_placed {act : Act R} {position : GPSCoordinate R} (left : act ∈ job.callbacks w os)
    (place : placed act = some position) : position = w.ctrl.status.currentGps := by
  have outputs : act ∉ os.flatMap callback := by
    intro called
    obtain ⟨o, _, left⟩ := List.mem_flatMap.mp called
    cases o with
    | StateChange _ next => cases (tripStateCallback_placed next act left).symm.trans place
    | QueryResult asked result =>
      rcases mem_etaCallback left with ⟨_, _, rfl⟩ | rfl <;> cases place
    | _ => cases left
  cases job with
  | GetTripStatus =>
    cases List.mem_singleton.mp left
    exact (Option.some.inj place).symm
  | _ => exact absurd left outputs

omit [Zero R] [Add R] [Sub R] [Mul R] [Div R] [NatCast R] [LT R] [DecidableLT R] [CMath R] in
/-- An event that is made up carries the position that was reported, or the present one. -/
theorem event_carried {s : App R} {report : Report R} {position : GPSCoordinate R}
    {event : VehicleEvent R} (made : report.event s = .ok event) (carries : carried event = some position) :
    placed (.Make report) = some position ∨ position = s.world.ctrl.status.currentGps := by
  cases report with
  | Eta asked timeSeconds fare =>
    obtain ⟨_, _, rfl⟩ := map_ok made
    cases carries
  | Location _ =>
    cases made
    exact .inl carries
  | Arrive =>
    cases made
    exact .inr (Option.some.inj carries).symm
  | _ =>
    cases made
    cases carries

omit [Zero R] [Add R] [Sub R] [Mul R] [Div R] [NatCast R] [LT R] [DecidableLT R] [CMath R] in
theorem dispatch_placed (command : GatewayCommand R) : ∀ act ∈ dispatch command, placed act = none := by
  unfold dispatch
  split
  · simp
  · cases command <;> simp [placed]

variable {past : History (App R) (Turn R) (Effect R)} {s : App R}

/-- The stream's thread reports no position. -/
theorem stream_placed (run : Runs (Gateway.machine D T) past s) : ∀ act ∈ s.stream, placed act = none := by
  refine run.invariant (I := fun _ s => ∀ act ∈ s.stream, placed act = none) ?_ ?_
  · rintro _ ⟨w, _, rfl⟩ act left
    cases left
  · intro past s i effects s' earlier unplaced stepped a left
    cases step_cases stepped with
    | outside _ _ _ _ _ _ _ _ | run _ _ _ _ _ _ _ _ => exact unplaced a left
    | handle act rest _ => exact unplaced a (by simpa using left)
    | receive command _ => exact dispatch_placed command a left
    | dispatch act rest next new leaves =>
      have command := stream_ofCommand earlier act (by simp [next])
      rw [next] at unplaced
      rcases List.mem_append.mp left with own | old
      · obtain ⟨report, event, rfl, made, rfl⟩ := mem_next leaves own
        cases report with
        | Location _ | Arrive | Eta _ _ _ => cases command
        | _ =>
          cases made
          rfl
      · exact unplaced a (List.mem_cons_of_mem _ old)

/-- What the running handler reports is the latest position set. -/
structure Current (D : MapData R) (past : History (App R) (Turn R) (Effect R)) (s : App R) : Prop where
  position : s.world.ctrl.status.currentGps = (latest D past).getD ⟨0, 0⟩
  reported : ∀ act ∈ s.handler, ∀ position, placed act = some position →
    position = s.world.ctrl.status.currentGps

omit [Add R] [Sub R] [Mul R] [Div R] [LT R] [DecidableLT R] [CMath R] in
theorem initial_position (m : LaneletMap R) (now : Int) :
    (initialWorld (κ := Int64) m now).ctrl.status.currentGps = ⟨0, 0⟩ := by
  unfold initialWorld TripController.initializeInMap
  split
  · rfl
  · exact transitionTo_currentGps _ _ _

omit [Zero R] [Add R] [Sub R] [Mul R] [Div R] [CMath R] in
theorem latest_cons (m : Moment (App R) (Turn R) (Effect R)) :
    latest D (m :: past) = (setAt D m).or (latest D past) := by
  rw [latest, List.findSome?_cons]
  cases setAt D m <;> rfl

omit [Zero R] [Add R] [Sub R] [Mul R] [Div R] [CMath R] in
theorem setAt_outside {i : Turn R} {effects : List (Effect R)} {s' : App R} (outside : i.Outside s) :
    setAt D ⟨s, i, effects, s'⟩ = none := by
  cases i with
  | Run e =>
    simp only [setAt, started]
    split
    · rename_i free
      rw [outside free]
      rfl
    · rfl
  | _ => rfl

/-- As long as no handler replaces the status, the position is the latest one set. -/
theorem current_run (run : Runs (Gateway.machine D T) past s) (kept : Along (fun _ m => ¬ Forgets D T m) past) :
    Current D past s := by
  refine run.invariant_along (I := Current D) (C := fun _ m => ¬ Forgets D T m) ?_ ?_ kept
  · rintro _ ⟨w, ⟨m, now, _, rfl⟩, rfl⟩
    refine ⟨initial_position _ _, ?_⟩
    simp [initialApp]
  · intro past s i effects s' earlier current stepped calm
    cases step_cases stepped with
    | outside w jobs switches enabled outside _ ctrl _ =>
      refine ⟨?_, ?_⟩
      · rw [latest_cons, setAt_outside outside, ctrl]
        exact current.position
      · rw [ctrl]
        exact current.reported
    | receive command _ => exact ⟨current.position, current.reported⟩
    | dispatch act rest _ =>
      refine ⟨?_, by simpa using current.reported⟩
      rw [latest_cons]
      simpa [setAt] using current.position
    | handle act rest next new leaves =>
      refine ⟨?_, fun a left position place => ?_⟩
      · rw [latest_cons]
        simpa [setAt] using current.position
      rw [apply_world]
      have reported := current.reported
      rw [next] at reported
      rcases List.mem_append.mp left with own | old
      · obtain ⟨report, event, rfl, made, rfl⟩ := mem_next leaves own
        rcases event_carried made place with before | now
        · exact reported _ List.mem_cons_self position before
        · exact now
      · exact reported a (List.mem_cons_of_mem _ old) position place
    | run e job rest w os free next ran =>
      have began : started ⟨s, .Run e, [.Ran job os],
          { s with world := w, strand := rest, handler := job.callbacks w os }⟩ = some job := by
        simp [started, free, next]
      refine ⟨?_, fun a left position place => callbacks_placed left place⟩
      rw [ran_position (world_reachable earlier) ran fun i member resets =>
        calm ⟨e, job, rfl, began, i, member, resets⟩, current.position, latest_cons]
      simp only [setAt, began, Option.bind_some]
      cases setBy D e job <;> rfl

/-- As long as no handler replaces the status, every event carries the latest position set. -/
theorem latest_reported (run : Runs (Gateway.machine D T) past s)
    (kept : Along (fun _ m => ¬ Forgets D T m) past) : Along (LatestReported D) past := by
  refine run.along_of_along (C := fun _ m => ¬ Forgets D T m) ?_ kept
  intro past s i effects s' earlier kept stepped _ gps set report event sent position carries
  have current := current_run earlier kept
  have now : s.world.ctrl.status.currentGps = gps := by rw [current.position, set, Option.getD_some]
  rcases queued_cases earlier stepped sent with ⟨asked, _⟩ | left
  · have unplaced : carried event = none := stream_placed earlier (.Enqueue report event) asked
    cases unplaced.symm.trans carries
  · rw [current.reported (.Enqueue report event) left position carries, now]

end

/-! ### The position of the vehicle -/

/-- In every reachable state a step keeps the position exactly when there is none
    to lose or the status is not replaced; and in every run in which no handler
    replaces the status, every location or arrival that is sent once a position
    has been set carries the latest one. -/
theorem position_kept_iff (D : MapData R) (T : TripTimings) :
    (∀ past (w : World R κ), Runs (Strand.machine D T) past w →
      ∀ i, (∀ e gps, i ≠ .Handle e (.SetCurrentGps gps)) →
        (KeepsPosition D T w i ↔ w.ctrl.status.currentGps = ⟨0, 0⟩ ∨ ¬ Resets D T w.ctrl i)) ∧
    ∀ past s, Runs (Gateway.machine D T) past s → Along (fun _ m => ¬ Forgets D T m) past →
      Along (LatestReported D) past :=
  ⟨fun _ _ _ _ other => keepsPosition_iff other, fun _ _ run kept => latest_reported run kept⟩

end

section
attribute [local instance] streetMath

/-- The first position of the vehicle on the street. -/
def onStreet : GPSCoordinate ℚ := localToGps street ⟨69010, 68800, 40⟩

/-- The timer and the question for the position. -/
def routine : Job ℚ → Bool
  | .Deliver .TickTimer | .GetTripStatus => true
  | _ => false

/-- The controller is idle and has nothing else to do. -/
def Quiet (m : Moment (App ℚ) (Turn ℚ) (Effect ℚ)) : Prop :=
  m.pre.world.ctrl.status.state = .Idle ∧ (started m).all routine = true

instance (m : Moment (App ℚ) (Turn ℚ) (Effect ℚ)) : Decidable (Quiet m) := inferInstanceAs (Decidable (_ ∧ _))

theorem quiet_remembers {m : Moment (App ℚ) (Turn ℚ) (Effect ℚ)} (quiet : Quiet m) : ¬ Forgets street {} m := by
  obtain ⟨idle, own⟩ := quiet
  rintro ⟨e, job, _, began, i, member, resets⟩
  rw [began, Option.all_some] at own
  cases job with
  | GetTripStatus => cases member
  | Deliver delivery =>
    cases delivery with
    | TickTimer =>
      rcases List.mem_append.mp member with set | tick
      · simp only [Option.mem_toList, Option.map_eq_some_iff] at set
        obtain ⟨gps, _, rfl⟩ := set
        cases resets
      · cases List.mem_singleton.mp tick
        simp [Resets, QueryEnds, idle] at resets
    | _ => cases own
  | _ => cases own

/-- The position is set and asked for. -/
theorem position_kept_iff_on_street :
    (∃ past w, Runs (Strand.machine street {} : Machine (World ℚ Unit) _ _ _) past w ∧
      w.ctrl.status.currentGps = onStreet ∧ (KeepsPosition street {} w (.Handle (streetAt 1) .Cancel) ↔
        w.ctrl.status.currentGps = ⟨0, 0⟩ ∨ ¬ Resets street {} w.ctrl (.Handle (streetAt 1) .Cancel))) ∧
    ∃ past s, Runs (Gateway.machine street {}) past s ∧ latest street past = some onStreet ∧
      Along (LatestReported street) past := by
  constructor
  · obtain ⟨past, w, run, set⟩ := exists_run (M := Strand.machine street {}) (s := initialWorld (κ := Unit) .fresh 0)
      (eachSecond 0 [.SetCurrentGps onStreet]) fresh_starts
      (fun _ w => decide (w.ctrl.status.currentGps = onStreet)) (by decide +kernel)
    exact ⟨past, w, run, of_decide_eq_true set,
      (position_kept_iff street {}).1 past w run (.Handle (streetAt 1) .Cancel) (by simp)⟩
  · obtain ⟨past, s, run, asked⟩ := exists_run (M := Gateway.machine street {})
      (s := initialApp (initialWorld .fresh 0))
      (deliveryTurns 0 [.TickTimer] ++ commandTurns (.OrderUpdateLocation vin) ++
        [.Run (streetAt 1), .Handler, .Handler]) fresh_wired
      (fun past _ => decide (latest street past = some onStreet ∧
        Along (fun _ m => Quiet m) past))
      (by decide +kernel)
    obtain ⟨set, own⟩ := of_decide_eq_true asked
    exact ⟨past, s, run, set, (position_kept_iff (κ := Unit) street {}).2 past s run
      (along_forall.mpr fun m member => quiet_remembers (along_forall.mp own m member))⟩

/-- A cancel resets the position that has just been set, and the gateway is told the origin. -/
theorem position_forgotten :
    (∃ past w, Runs (Strand.machine street {} : Machine (World ℚ Unit) _ _ _) past w ∧
      ¬ KeepsPosition street {} w (.Handle (streetAt 1) .Cancel)) ∧
    ∃ past s, Runs (Gateway.machine street {}) past s ∧ ¬ Along (LatestReported street) past := by
  constructor
  · obtain ⟨past, w, run, set⟩ := exists_run (M := Strand.machine street {}) (s := initialWorld (κ := Unit) .fresh 0)
      (eachSecond 0 [.SetCurrentGps onStreet]) fresh_starts
      (fun _ w => decide (w.ctrl.status.currentGps = onStreet ∧ onStreet ≠ ⟨0, 0⟩)) (by decide +kernel)
    obtain ⟨set, off⟩ := of_decide_eq_true set
    refine ⟨past, w, run, fun keeps => ?_⟩
    rcases (keepsPosition_iff (by simp)).mp keeps with lost | kept
    · exact off (set.symm.trans lost)
    · exact kept trivial
  · obtain ⟨past, s, run, told⟩ := exists_run (M := Gateway.machine street {})
      (s := initialApp (initialWorld .fresh 0))
      (deliveryTurns 0 [.TickTimer] ++ commandTurns (.TripCancel vin 5) ++ [.Run (streetAt 1)] ++
        commandTurns (.OrderUpdateLocation vin) ++ [.Run (streetAt 2), .Handler, .Handler]) fresh_wired
      (fun past _ => match past with
        | m :: older => decide (latest street older = some onStreet ∧ onStreet ≠ ⟨0, 0⟩ ∧
            .Queued (.Location ⟨0, 0⟩) (.Location vin ⟨0, 0⟩) ∈ m.outputs)
        | [] => false)
      (by decide +kernel)
    refine ⟨past, s, run, fun reported => ?_⟩
    cases past with
    | nil => cases told
    | cons m older =>
      obtain ⟨set, off, sent⟩ := of_decide_eq_true told
      exact off (reported.1 onStreet set _ _ sent _ rfl).symm

end
end AutowareAgent.Positions
