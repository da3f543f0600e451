import AutowareAgent.Bank

/-!
A quoted trip can be driven. Every lookup of the controller is for a lane that is
in the map: a search selects one, the routing graph reaches no others, and an
identifier that the controller keeps is one of a lane in its cache. So no lookup
throws, the lanes of a quoted trip are found again, and no trip fails.
-/
namespace AutowareAgent.QuotedTrips
open AutowareAgent.Machines AutowareAgent.Memo AutowareAgent.Numerals AutowareAgent.Lanes AutowareAgent.LaneCache
open AutowareAgent.Trips AutowareAgent.TripSteps AutowareAgent.Strand AutowareAgent.Automaton AutowareAgent.Quotes
open AutowareAgent.Queries AutowareAgent.Bank

section
variable {R : Type}

/-- The routing graph reaches lanelets of the map only. -/
def Bounded (D : MapData R) : Prop :=
  ∀ ll ∈ D.laneletLayer, ∀ dist, ∀ reached ∈ D.reachableSet ll dist, reached ∈ D.laneletLayer

/-- The map has a lanelet with the identifier. -/
def Mapped (D : MapData R) (id : LaneId) : Prop := ∃ ll, getLanelet D id = .ok ll

/-- The call throws nothing. All that may stop it is the projection onto a centreline
    without segments, which reads a point that nothing assigned. -/
def Harmless {α : Type} (x : Except Fault α) : Prop := ∀ fault, x = .error fault → fault = .UnassignedPoint

theorem harmless_ok {α : Type} (a : α) : Harmless (.ok a) := nofun

theorem harmless_bind {α β : Type} {x : Except Fault α} {f : α → Except Fault β} (first : Harmless x)
    (next : ∀ a, x = .ok a → Harmless (f a)) : Harmless (x >>= f) := by
  cases x with
  | error e =>
    rintro _ ⟨⟩
    exact first e rfl
  | ok a => exact next a rfl

theorem harmless_map {α β : Type} {x : Except Fault α} {f : α → β} (first : Harmless x) : Harmless (x.map f) := by
  cases x with
  | error e =>
    rintro _ ⟨⟩
    exact first e rfl
  | ok a => exact harmless_ok (f a)

theorem mapped_of_mem {D : MapData R} {ll : Lanelet R} (member : ll ∈ D.laneletLayer) : Mapped D ll.id :=
  (getLanelet_exists D ll.id).mpr (List.any_eq_true.mpr ⟨ll, member, by simp⟩)

end

section
variable {R κ : Type} [Zero R] [Add R] [Sub R] [Mul R] [Div R] [NatCast R] [LT R] [DecidableLT R] [CMath R]
variable {D : MapData R} {m : LaneletMap R} {gps : GPSCoordinate R} {id : LaneId}

/-! ### Lookups -/

omit [Zero R] [Div R] [NatCast R] in
/-- A search selects one of its candidates, or none. -/
theorem bestLane_mem (target : LocalCoordinate R) (candidates : List (Lanelet R)) :
    bestLane D target candidates = InvalId ∨ ∃ ll ∈ candidates, ll.id = bestLane D target candidates := by
  have general : ∀ best : Option R × LaneId, best.2 = InvalId ∨ (∃ ll ∈ candidates, ll.id = best.2) →
      ∀ rest, rest ⊆ candidates → (rest.foldl (nearerLane D target) best).2 = InvalId ∨
        ∃ ll ∈ candidates, ll.id = (rest.foldl (nearerLane D target) best).2 := by
    intro best selected rest within
    induction rest generalizing best with
    | nil => exact selected
    | cons ll rest ih =>
      obtain ⟨first, others⟩ := List.cons_subset.mp within
      refine ih _ ?_ others
      unfold nearerLane
      dsimp only
      split
      · split
        · exact selected
        · split
          · exact .inr ⟨ll, first, rfl⟩
          · exact selected
      · exact selected
  exact general (none, InvalId) (.inl rfl) candidates (List.Subset.refl _)

omit [Zero R] [Div R] [NatCast R] in
/-- What a search selects among lanelets of the map is in the map. -/
theorem mapped_of_best {candidates : List (Lanelet R)} {target : LocalCoordinate R}
    (within : candidates ⊆ D.laneletLayer) (valid : bestLane D target candidates ≠ InvalId) :
    Mapped D (bestLane D target candidates) := by
  rcases bestLane_mem (D := D) target candidates with invalid | ⟨ll, member, own⟩
  · exact absurd invalid valid
  · rw [← own]
    exact mapped_of_mem (within member)

omit [Div R] [NatCast R] in
theorem nearestLane_mapped (selected : nearestLane D gps = some id) : Mapped D id := by
  unfold nearestLane at selected
  split at selected
  · cases selected
  · dsimp only at selected
    split at selected
    · cases selected
    · rename_i valid
      cases selected
      exact mapped_of_best (List.Subset.refl _) valid

omit [Div R] in
theorem nearestConnectedLane_mapped {ref : LaneId} {b : Bool} (bounded : Bounded D)
    (selected : nearestConnectedLane D gps ref b = .ok (some id)) : Mapped D id := by
  unfold nearestConnectedLane at selected
  split at selected
  · cases selected
  · obtain ⟨reference, found, rest⟩ := bind_ok selected
    have within : connectedLanes D reference b ⊆ D.laneletLayer := by
      unfold connectedLanes
      split
      · exact fun reached member => bounded reference (getLanelet_mem found) _ reached member
      · exact fun ll member => List.mem_of_mem_filter member
    dsimp only at rest
    split at rest
    · cases rest
    · rename_i valid
      cases rest
      exact mapped_of_best within valid

omit [Div R] in
theorem nearestConnectedLane_harmless {ref : LaneId} {b : Bool} (mapped : Mapped D ref) :
    Harmless (nearestConnectedLane D gps ref b) := by
  obtain ⟨reference, found⟩ := mapped
  unfold nearestConnectedLane
  split
  · exact harmless_ok _
  · rw [found]
    dsimp only [bind, Except.bind]
    split <;> exact harmless_ok _

/-- An entry for a lanelet of the map is made, or its centreline has no segment. -/
theorem laneAt_harmless (mapped : Mapped D id) : Harmless (laneAt D id gps) := by
  obtain ⟨ll, found⟩ := mapped
  rw [laneAt_eq found]
  apply harmless_map
  rcases projected_cases found gps with ⟨_, failed⟩ | ⟨_, best, _, projected⟩
  · rw [failed]
    rintro _ ⟨⟩
    rfl
  · rw [projected]
    exact harmless_ok _

theorem cachedLane_harmless (mapped : Mapped D id) : Harmless (cachedLane D id gps m) := by
  rw [cachedLane_eq]
  refine harmless_map ?_
  unfold fetch
  split
  · exact harmless_ok _
  · exact harmless_map (laneAt_harmless mapped)

theorem findNearestLane_harmless : Harmless (findNearestLane D gps m) := by
  unfold findNearestLane
  split
  · exact harmless_ok _
  · rename_i id selected
    exact harmless_bind (cachedLane_harmless (nearestLane_mapped selected)) fun _ _ => harmless_ok _

theorem findNearestConnectedLane_harmless {ref : LaneId} {b : Bool} (bounded : Bounded D) (mapped : Mapped D ref) :
    Harmless (findNearestConnectedLane D gps ref b m) := by
  unfold findNearestConnectedLane
  refine harmless_bind (nearestConnectedLane_harmless mapped) fun best selected => ?_
  cases best with
  | none => exact harmless_ok _
  | some id =>
    exact harmless_bind (cachedLane_harmless (nearestConnectedLane_mapped bounded selected)) fun _ _ => harmless_ok _

/-! ### The controller's map -/

/-- The second map is the first after some calls. -/
def Serves (D : MapData R) (m m' : LaneletMap R) : Prop := Leads (server D) m m'

theorem serves_refl (m : LaneletMap R) : Serves D m m := .refl

theorem serves_trans {m m' m'' : LaneletMap R} (first : Serves D m m') (second : Serves D m' m'') : Serves D m m'' :=
  first.trans second

theorem serves_call {m m' : LaneletMap R} {c : Call R} {lane : Option (LaneInfo R)}
    (answered : c.result D m = .ok (lane, m')) : Serves D m m' := by
  have served : serve D m c = .ok (m', lane.toList) := by simp only [serve, answered]
  exact leads_step (M := server D) served

theorem serves_nearest {m m' : LaneletMap R} {lane : Option (LaneInfo R)}
    (found : findNearestLane D gps m = .ok (lane, m')) : Serves D m m' :=
  serves_call (c := .FindNearestLane gps) found

theorem serves_connected {m m' : LaneletMap R} {lane : Option (LaneInfo R)} {ref : LaneId} {b : Bool}
    (found : findNearestConnectedLane D gps ref b m = .ok (lane, m')) : Serves D m m' :=
  serves_call (c := .FindNearestConnectedLane gps ref b) found

theorem serves_byId {m m' : LaneletMap R} {lane : Option (LaneInfo R)}
    (found : getLaneById D id m = .ok (lane, m')) : Serves D m m' :=
  serves_call (c := .GetLaneById id) found

variable {T : TripTimings} {e : Env R} {now : Int} {c c' : TripController R κ}

theorem startQueryLeg_serves {fromGps toGps : GPSCoordinate R} (ran : c.startQueryLeg D now fromGps toGps = .ok c') :
    Serves D c.laneletMap c'.laneletMap := by
  unfold TripController.startQueryLeg at ran
  obtain ⟨⟨fromLane, m⟩, started, rest⟩ := bind_ok ran
  have first : Serves D c.laneletMap m := by
    unfold TripController.findStartLane at started
    split at started
    · exact serves_nearest started
    · obtain ⟨id, _, found⟩ := bind_ok started
      exact serves_byId found
  cases fromLane with
  | none =>
    cases rest
    simpa only [failQuery_eq] using first
  | some fromLane =>
    obtain ⟨⟨toLane, m'⟩, connected, rest⟩ := bind_ok rest
    have second := serves_trans first (serves_connected connected)
    cases toLane with
    | none =>
      obtain ⟨⟨near, m''⟩, nearest, rest⟩ := bind_ok rest
      cases rest
      simpa only [failQuery_eq] using serves_trans second (serves_nearest nearest)
    | some toLane =>
      cases rest
      simpa using second

theorem finishQueryLeg_serves (ran : c.finishQueryLeg D now = .ok c') : Serves D c.laneletMap c'.laneletMap := by
  rcases finishQueryLeg_cases ran with ⟨_, goalLaneId, _, started⟩ | ⟨_, rfl⟩
  · exact startQueryLeg_serves (c := c.bankPickupLeg goalLaneId) started
  · rw [transitionTo_laneletMap, callQueryCb_eq]
    exact serves_refl _

/-- A tick leaves the map alone, or ends a leg of the query. -/
theorem tick_serves (ran : c.tick D T e = .ok c') : Serves D c.laneletMap c'.laneletMap := by
  have republish : ∀ pose, (c.republishInitialPose e.now pose).laneletMap = c.laneletMap := fun pose =>
    congrArg Booking.laneletMap (bookingOf_republish c e.now pose)
  have driven : ∀ arrived next, (c.tickDriving e.now arrived next).laneletMap = c.laneletMap := by
    intro arrived next
    rcases tickDriving_cases c e.now arrived next with same | ⟨_, there⟩
    · rw [same]
    · simp [there, TripController.emit]
  unfold TripController.tick at ran
  cases state : c.status.state <;> rw [state] at ran <;> simp only [Except.ok.injEq] at ran
  case QueryReadingEta =>
    unfold TripController.tickQueryReadingEta at ran
    split at ran
    · exact finishQueryLeg_serves ran
    · split at ran
      · exact finishQueryLeg_serves (c := { c with etaDistanceM := 0, etaSeconds := 0 }) ran
      · cases ran
        exact serves_refl _
  all_goals
    suffices same : c'.laneletMap = c.laneletMap from same ▸ serves_refl _
    subst ran
  case InitializingInMap =>
    unfold TripController.tickInitializingInMap
    split <;> simp [republish]
  case QueryWaitingLocalisation =>
    unfold TripController.tickQueryWaitingLocalisation
    dsimp only
    split
    · split <;> simp [failQuery_eq, republish]
    · simp
  case QueryWaitingRoute =>
    rcases tickQueryWaitingRoute_cases T e.now c with ⟨_, set⟩ | ⟨c₁, _, again, ended⟩
    · simp [set]
    · have same : c₁.laneletMap = c.laneletMap := by rcases again with rfl | rfl <;> rfl
      rcases ended with ⟨_, stays⟩ | ⟨_, reason, failed⟩
      · rw [stays, same]
      · simp [failed, failQuery_eq, same]
  case WaitingLocalisation =>
    unfold TripController.tickWaitingLocalisation
    split <;> simp [republish, TripController.doPublishGoal, TripController.emit]
  case Engaging =>
    unfold TripController.tickEngaging
    split
    · rcases doEngage_cases e c with same | asked <;> simp_all [TripController.emit]
    · rfl
  case DrivingToPickup | Running => exact driven _ _
  case QueryPublishingInitialPose | QueryPublishingGoal | PublishingInitialPose => exact transitionTo_laneletMap _ _ _
  all_goals rfl

theorem move_serves {r : TripController R κ × Bool} (ran : c.move D now = .ok r) :
    Serves D c.laneletMap r.1.laneletMap := by
  rcases move_cases ran with ⟨_, rfl⟩ | ⟨_, _, rfl⟩ | ⟨trip, _, m, lane, _, _, _, found, rfl⟩
  · exact serves_refl _
  · simpa using serves_refl c.laneletMap
  · have served := serves_connected found
    cases lane <;> simpa [TripController.startTripLeg, TripController.doPublishGoal, TripController.emit] using served

/-- Every operation changes the map by the calls that it makes. -/
theorem apply_serves {op : Operation R κ} (ran : op.apply D T e c = .ok c') : Serves D c.laneletMap c'.laneletMap := by
  cases op with
  | QueryEta start goal cb =>
    obtain ⟨r, queried, rfl⟩ := map_ok ran
    rcases queryEta_cases queried with ⟨_, reason, refused⟩ | ⟨_, _, _, _, started⟩
    · have same : r.1.laneletMap = c.laneletMap := by
        rw [refused]
        cases cb <;> rfl
      exact same ▸ serves_refl _
    · have served := startQueryLeg_serves started
      exact served
  | StartTrip =>
    obtain ⟨r, started, rfl⟩ := map_ok ran
    rcases startTrip_cases started with rfl | ⟨_, _, m, lane, _, _, _, found, rfl⟩
    · exact serves_refl _
    · have served := serves_byId found
      cases lane <;> simpa [returning, TripController.emit, TripController.acceptTrip] using served
  | GoToPickup =>
    cases ran
    rcases goToPickup_cases c e.now with same | ⟨_, went⟩ <;> simp [*, returning, TripController.emit, serves_refl]
  | Move =>
    obtain ⟨r, moved, rfl⟩ := map_ok ran
    exact move_serves moved
  | HandleMoveCommand =>
    obtain ⟨r, handled, rfl⟩ := map_ok ran
    rcases handleMoveCommand_cases handled with ⟨_, rfl⟩ | ⟨_, moved⟩ | rfl
    · rcases goToPickup_cases c e.now with same | ⟨_, went⟩ <;> simp [*, returning, TripController.emit, serves_refl]
    · exact move_serves moved
    · exact serves_refl _
  | Cancel =>
    cases ran
    unfold TripController.cancel
    dsimp only
    cases c.laneletMap.defaultStart <;> simp [TripController.doPublishInitialPose, TripController.emit, serves_refl]
  | Tick => exact tick_serves ran
  | Eta distanceM timeSeconds =>
    cases ran
    unfold TripController.injectEta
    split <;> exact serves_refl _
  | SetCurrentGps _ | LocState _ | RouteState _ | ModeState _ | Route _ =>
    cases ran
    exact serves_refl _

section
variable {past : History (World R κ) (Input R κ) (Output R κ)} {w : World R κ}

/-- In every run the controller's map is a new map after some calls. -/
theorem run_serves (run : Runs (machine D T) past w) : Reachable (server D) w.ctrl.laneletMap := by
  refine run.invariant (I := fun _ w => Reachable (server D) w.ctrl.laneletMap) ?_ ?_
  · rintro _ ⟨m, now, served, rfl⟩
    have same : ((initialWorld m now : World R κ)).ctrl.laneletMap = m := by
      simp only [initialWorld, TripController.initializeInMap]
      split
      · rfl
      · simp [TripController.settled, TripController.doPublishInitialPose, TripController.emit,
          TripController.constructed]
    rwa [same]
  · intro past w i os w' _ served stepped
    change step D T w i = _ at stepped
    cases i with
    | Handle e op =>
      obtain ⟨c, applied, _, ended⟩ := handle_cases stepped
      have own : w'.ctrl.laneletMap = c.laneletMap := by
        rw [ended]
        split <;> rfl
      exact own ▸ reachable_leads served (apply_serves applied)
    | ModeResponse seq success =>
      rcases modeResponse_cases stepped with ⟨_, rfl, _⟩ | ⟨_, _, rfl, _⟩ | ⟨_, _, _, rfl⟩ <;> exact served
    | EngageResponse seq code =>
      rw [(engageResponse_cases stepped).2.1]
      exact served
    | Acknowledge e seq =>
      rcases acknowledge_cases stepped with ⟨_, rfl, _⟩ | ⟨_, _, rfl⟩
      · exact served
      · have same : (w.ctrl.onEngaged e.now).settled.laneletMap = w.ctrl.laneletMap := by
          unfold TripController.onEngaged TripController.settled
          split
          · split <;> simp
          · rfl
        exact same ▸ served

/-- Every lane in the controller's cache is in the map. -/
theorem held_mapped (run : Runs (machine D T) past w) {info : LaneInfo R} (held : Holds w.ctrl.laneletMap info) :
    Mapped D info.laneId := by
  exact cache_mapped (run_serves run) info (List.mem_of_find?_eq_some held)

/-! ### Operations -/

/-- A leg that starts where a lane is found throws nothing. -/
theorem startQueryLeg_harmless {fromGps toGps : GPSCoordinate R} {c : TripController R κ} (bounded : Bounded D)
    (starts : Harmless (c.findStartLane D fromGps))
    (mapped : ∀ info m, c.findStartLane D fromGps = .ok (some info, m) → Mapped D info.laneId) :
    Harmless (c.startQueryLeg D now fromGps toGps) := by
  unfold TripController.startQueryLeg
  refine harmless_bind starts ?_
  rintro ⟨fromLane, m⟩ started
  cases fromLane with
  | none => exact harmless_ok _
  | some fromLane =>
    refine harmless_bind (findNearestConnectedLane_harmless bounded (mapped fromLane m started)) ?_
    rintro ⟨toLane, m'⟩ _
    cases toLane with
    | none => exact harmless_bind findNearestLane_harmless fun _ _ => harmless_ok _
    | some toLane => exact harmless_ok _

/-- The lane that a finished pickup leg leads to is found. -/
theorem tripStart_found (run : Runs (machine D T) past w) (state : w.ctrl.status.state = .QueryReadingEta)
    (leg : w.ctrl.currentLeg = .Pickup) :
    ∃ lane, Holds w.ctrl.laneletMap lane ∧ stollId w.ctrl.status.goalLaneletId = .ok lane.laneId ∧
      getLaneById D lane.laneId w.ctrl.laneletMap = .ok (some lane, w.ctrl.laneletMap) := by
  obtain ⟨pickup, held, goal⟩ := booked_pickupGoal (booked_run run) (by rw [state]; rfl) leg
  refine ⟨pickup, held, ?_, getLaneById_held held⟩
  rw [goal, stollId, stoll_toString64]

theorem finishQueryLeg_harmless (bounded : Bounded D) (run : Runs (machine D T) past w)
    (state : w.ctrl.status.state = .QueryReadingEta) (distanceM etaSeconds : R) :
    Harmless ({ w.ctrl with etaDistanceM := distanceM, etaSeconds := etaSeconds }.finishQueryLeg D now) := by
  unfold TripController.finishQueryLeg
  cases leg : w.ctrl.currentLeg with
  | Trip => exact harmless_ok _
  | Pickup =>
    obtain ⟨pickup, held, read, found⟩ := tripStart_found run state leg
    dsimp only
    rw [read]
    have starts : (TripController.bankPickupLeg pickup.laneId
        { w.ctrl with etaDistanceM := distanceM, etaSeconds := etaSeconds }).findStartLane D w.ctrl.queryStartGps =
          .ok (some pickup, w.ctrl.laneletMap) := by
      simp only [TripController.findStartLane, TripController.bankPickupLeg, read]
      exact found
    refine startQueryLeg_harmless bounded ?_ ?_
    · rw [starts]
      exact harmless_ok _
    · intro info m started
      cases starts.symm.trans started
      exact held_mapped run held

/-- `move` publishes the goal where it is awaited, and is refused everywhere else. -/
theorem move_harmless (run : Runs (machine D T) past w) : Harmless (w.ctrl.move D now) := by
  by_cases waiting : w.ctrl.status.state = .WaitingForMove
  · obtain ⟨_, goal, route, _, _, moved⟩ := move_booked now (booked_run run) waiting
    rw [moved]
    exact harmless_ok _
  · unfold TripController.move
    rw [if_pos waiting]
    exact harmless_ok _

theorem tick_harmless (bounded : Bounded D) (run : Runs (machine D T) past w) : Harmless (w.ctrl.tick D T e) := by
  unfold TripController.tick
  cases state : w.ctrl.status.state with
  | QueryReadingEta =>
    dsimp only
    unfold TripController.tickQueryReadingEta
    split
    · exact finishQueryLeg_harmless bounded run state _ _
    · split
      · exact finishQueryLeg_harmless bounded run state _ _
      · exact harmless_ok _
  | _ => exact harmless_ok _

/-- No operation throws. -/
theorem apply_harmless (bounded : Bounded D) (run : Runs (machine D T) past w) (op : Operation R κ) :
    Harmless (op.apply D T e w.ctrl) := by
  cases op with
  | QueryEta start goal cb =>
    refine harmless_map ?_
    unfold TripController.queryEta
    split
    · exact harmless_ok _
    · split
      · exact harmless_ok _
      · refine harmless_bind ?_ fun _ _ => harmless_ok _
        refine startQueryLeg_harmless bounded findNearestLane_harmless fun info m started => ?_
        have selected := (findNearestLane_spec started).2.2
        exact nearestLane_mapped selected.symm
  | StartTrip =>
    obtain ⟨c, started⟩ := startTrip_returns run e.now
    refine harmless_map ?_
    rw [started]
    exact harmless_ok _
  | Move => exact harmless_map (move_harmless run)
  | HandleMoveCommand =>
    refine harmless_map ?_
    unfold TripController.handleMoveCommand
    split
    · exact harmless_ok _
    · split
      · exact move_harmless run
      · exact harmless_ok _
  | Tick => exact tick_harmless bounded run
  | _ => exact harmless_ok _

/-! ### Runs -/

/-- What a quoted trip needs to be driven is there. -/
structure Drivable (D : MapData R) (T : TripTimings) (w : World R κ) : Prop where
  /-- no operation throws, whatever its arguments -/
  throws : ∀ i fault, step D T w i = .error fault → fault = .UnassignedPoint
  /-- the lane that the trip leg of a query starts from -/
  leg : w.ctrl.status.state = .QueryReadingEta → w.ctrl.currentLeg = .Pickup →
    ∃ id lane, stollId w.ctrl.status.goalLaneletId = .ok id ∧
      getLaneById D id w.ctrl.laneletMap = .ok (some lane, w.ctrl.laneletMap)
  /-- the pickup lane of an admitted `startTrip` -/
  pickup : ∀ pickup trip, w.ctrl.pickupRoute = some pickup → w.ctrl.tripRoute = some trip →
    w.ctrl.status.state = .RoutesReady ∨ w.ctrl.status.state = .Idle →
    ∃ lane, getLaneById D pickup.goalLaneId w.ctrl.laneletMap = .ok (some lane, w.ctrl.laneletMap)
  /-- the goal lane of a `move` that is awaited -/
  move : w.ctrl.status.state = .WaitingForMove → ∀ now, ∃ trip id lane c, w.ctrl.tripRoute = some trip ∧
    stollId w.ctrl.status.startLaneletId = .ok id ∧
    findNearestConnectedLane D trip.goalGps id true w.ctrl.laneletMap = .ok (some lane, w.ctrl.laneletMap) ∧
    w.ctrl.move D now = .ok (c, true)
  /-- no trip fails -/
  failed : w.ctrl.status.state ≠ .Failed ∧
    ∀ i w' os, step D T w i = .ok (w', os) → w'.ctrl.status.state ≠ .Failed ∧ ∀ prev, .StateChange prev .Failed ∉ os

/-- No move of the automaton announces a failed trip where it does not end in one. -/
theorem advance_failed {ev : Event} {p p' : Phase} {sigs : List Signal} (moved : Advance ev p sigs p')
    (failed : .Entered .Failed ∈ sigs) : p'.state = .Failed := by
  cases moved with
  | failTrip | failMove => rfl
  | plan _ _ _ _ planned => cases planned _ failed
  | _ => simp at failed

theorem step_harmless (bounded : Bounded D) (run : Runs (machine D T) past w) (i : Input R κ) :
    Harmless (step D T w i) := by
  cases i with
  | Handle e op =>
    refine harmless_bind (apply_harmless bounded run op) fun c _ => ?_
    dsimp only
    split <;> exact harmless_ok _
  | ModeResponse seq success =>
    unfold step
    dsimp only
    split
    · split <;> exact harmless_ok _
    · exact harmless_ok _
  | EngageResponse seq code =>
    unfold step
    dsimp only
    split
    · split <;> exact harmless_ok _
    · exact harmless_ok _
  | Acknowledge e seq =>
    unfold step
    dsimp only
    split <;> exact harmless_ok _

/-- In every run, over a map whose routing graph stays within it, a quoted trip can be driven. -/
theorem quoted_drivable (bounded : Bounded D) (run : Runs (machine D T) past w) : Drivable D T w where
  throws i := step_harmless bounded run i
  leg state leg := by
    obtain ⟨lane, _, read, found⟩ := tripStart_found run state leg
    exact ⟨lane.laneId, lane, read, found⟩
  pickup pickup trip held _ admitted := by
    rcases admitted with ready | idle
    · obtain ⟨lane, _, booked⟩ := booked_ready (booked_run run) ready
      obtain ⟨route, same, own⟩ := booked.first.route
      cases held.symm.trans same
      rw [own]
      exact ⟨lane, getLaneById_held booked.first.held⟩
    · cases held.symm.trans (booked_idle (booked_run run) idle).1
  move waiting now := by
    obtain ⟨pickup, goal, booked, start⟩ := booked_driving (booked_run run) (by rw [waiting]; rfl)
    obtain ⟨trip, held, connects⟩ := booked.route
    obtain ⟨_, goal', route, _, _, moved⟩ := move_booked now (booked_run run) waiting
    have read : stollId w.ctrl.status.startLaneletId = .ok pickup.laneId := by
      rw [show w.ctrl.status.startLaneletId = toString64 pickup.laneId from congrArg Prod.fst start, stollId,
        stoll_toString64]
    exact ⟨trip, pickup.laneId, goal, _, held, read, findNearestConnectedLane_held connects booked.held, moved⟩
  failed := by
    refine ⟨(never_failed run).1, fun i w' os stepped => ?_⟩
    have unfailed := (never_failed (run.step stepped)).1
    refine ⟨unfailed, fun prev announced => unfailed ?_⟩
    exact advance_failed (step_advance run stepped) (mem_signals announced rfl)

end

end

section
attribute [local instance] streetMath

theorem street_bounded : Bounded street := by
  intro ll _ dist reached member
  simp only [street] at member ⊢
  split at member
  · exact List.mem_of_mem_take member
  · exact List.mem_of_mem_filter member

/-- A trip on the street that waits to be moved on from its pickup. -/
theorem quoted_drivable_on_street : ∃ past w, Runs (machine street {} : Machine (World ℚ Unit) _ _ _) past w ∧
    w.ctrl.status.state = .WaitingForMove ∧ Drivable street {} w := by
  obtain ⟨past, w, run, waits⟩ := exists_run (M := machine street {}) (s := initialWorld .fresh 0)
    (tripOnStreet (some ()) ++ engagedOnStreet 21 0 ++ eachSecond 22 [.RouteState .Arrived, .Tick]) fresh_starts
    (fun _ w => decide (w.ctrl.status.state = .WaitingForMove)) (by decide +kernel)
  exact ⟨past, w, run, by simpa using waits, quoted_drivable street_bounded run⟩

end
end AutowareAgent.QuotedTrips
