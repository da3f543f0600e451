import AutowareAgent.Components
import AutowareAgent.Destinations
import AutowareAgent.LegData

/-!
Quotes and islands of the map. A leg is only quoted to a lane that is reachable
from the lane on which it starts, the trip leg starts where the pickup leg ends,
and the drive keeps to the quote: the three lanes of a trip are in one of the
components that `debugConnectedComponents` lists.
-/
namespace AutowareAgent.Islands
open AutowareAgent.Machines AutowareAgent.Numerals AutowareAgent.Lanes AutowareAgent.FloodFill
open AutowareAgent.Components AutowareAgent.Trips AutowareAgent.TripSteps AutowareAgent.Strand
open AutowareAgent.Automaton AutowareAgent.Quotes AutowareAgent.Queries AutowareAgent.LegData AutowareAgent.Destinations

theorem toString64_injective {a b : LaneId} (same : toString64 a = toString64 b) : a = b := by
  have read := stoll_toString64 a
  rw [same, stoll_toString64] at read
  cases read
  rfl

section
variable {R κ : Type} [Zero R] [Add R] [Sub R] [Mul R] [NatCast R] [LT R] [DecidableLT R] [CMath R]

/-- A leg from one lane to another one, which a search for reachable lanes has selected. -/
def Reached (D : MapData R) (start goal : String) : Prop :=
  ∃ a b gps, start = toString64 a ∧ goal = toString64 b ∧ nearestConnectedLane D gps a true = .ok (some b)

/-- Both legs of a result lead on, the second from the end of the first. -/
structure Joined (D : MapData R) (r : EtaQueryResult R) : Prop where
  pickup : Reached D r.pickupLeg.startLaneId r.pickupLeg.goalLaneId
  trip : Reached D r.tripLeg.startLaneId r.tripLeg.goalLaneId
  meet : r.tripLeg.startLaneId = r.pickupLeg.goalLaneId

/-- What the lanes of the pipeline are worth: of the leg that is queried, of the
    pickup leg before it, and of the result of a query that has succeeded. -/
structure Chained (D : MapData R) (p : Pipeline R κ) : Prop where
  leg : querying p.state = true → Reached D p.startId p.goalId
  pickup : querying p.state = true → p.leg = .Trip →
    Reached D p.result.pickupLeg.startLaneId p.result.pickupLeg.goalLaneId ∧
      p.startId = p.result.pickupLeg.goalLaneId
  quoted : p.state = .RoutesReady ∨ driving p.state = true → Joined D p.result

/-! ### Steps -/

section
variable {D : MapData R} {T : TripTimings} {i : Input R κ} {p p' : Pipeline R κ} {told : List (Notice R κ)}

/-- No trip is asked for, quoted or driven. -/
theorem chained_idle (query : querying p.state = false) (ready : p.state ≠ .RoutesReady)
    (rest : driving p.state = false) : Chained D p where
  leg := never query
  pickup := never query
  quoted := by
    rintro (state | driven)
    · exact absurd state ready
    · exact never rest driven

theorem chained_closed (closed : Closed p p') : Chained D p' := by
  refine chained_idle ?_ ?_ ?_ <;> simp [closed.state, querying, driving]

/-- A leg that is queried stays the same from one of its states to the next. -/
theorem Chained.next {s : TripState} (chained : Chained D p) (query : querying p.state = true)
    (state : p'.state = s) (still : querying s = true)
    (same : p'.startId = p.startId ∧ p'.goalId = p.goalId ∧ p'.leg = p.leg ∧ p'.result = p.result) :
    Chained D p' := by
  obtain ⟨start, goal, leg, result⟩ := same
  refine ⟨fun _ => ?_, fun _ trip => ?_, fun ended => ?_⟩
  · rw [start, goal]
    exact chained.leg query
  · rw [start, result]
    exact chained.pickup query (leg.symm.trans trip)
  · rw [state] at ended
    rcases ended with rfl | way
    · cases still
    · rw [querying_of_driving way] at still
      cases still

/-- Every step of the pipeline keeps its lanes chained, where the legs that
    a query opens with lead on. -/
theorem chained_step (chained : Chained D p) (moved : Progress D T i p told p')
    (opened : ∀ {e start goal cb}, i = .Handle e (.QueryEta start goal cb) → p.state = .Idle →
      querying p'.state = true → Reached D p'.startId p'.goalId) : Chained D p' := by
  cases moved with
  | quiet _ _ | awaitLocalisation _ _ _ | awaitRoute _ _ _ | awaitEta _ _ _ | refuse _ => exact chained
  | locState _ | routeState _ | eta _ _ _ | refuseTrip _ => exact ⟨chained.leg, chained.pickup, chained.quoted⟩
  | cancel closed | failOpen _ closed _ | fail _ closed _ => exact chained_closed closed
  | initialised _ _ => exact chained_idle rfl nofun rfl
  | openQuery fromLane toLane idle =>
    refine ⟨fun asked => opened rfl idle asked, fun _ trip => ?_, ?_⟩
    · cases trip
    · rintro (state | way)
      · cases state
      · cases way
  | publishPose state | localised state _ | publishGoal state | routeSet state _ =>
    exact chained.next (by simp [state, querying]) rfl rfl ⟨rfl, rfl, rfl, rfl⟩
  | endPickup d t pickup goal state leg measured goalId connects =>
    have first := chained.leg (by simp [state, querying])
    refine ⟨fun _ => ⟨pickup, goal, _, goalId, rfl, connects⟩, fun _ _ => ⟨first, rfl⟩, ?_⟩
    rintro (state | way)
    · cases state
    · cases way
  | endTrip d t state leg measured =>
    have query : querying p.state = true := by simp [state, querying]
    obtain ⟨first, meet⟩ := chained.pickup query leg
    exact ⟨never rfl, never rfl, fun _ => ⟨first, chained.leg query, meet⟩⟩
  | acceptTrip pickup ready => exact ⟨never rfl, never rfl, fun _ => chained.quoted (.inl ready)⟩
  | drive _ _ _ _ _ way next _ _ _ =>
    have other := querying_of_driving next
    exact ⟨never other, never other, fun _ => chained.quoted (.inr way)⟩

/-- A success is answered with both legs joined. -/
theorem answered_joined {cb : κ} {result : EtaQueryResult R} (chained : Chained D p)
    (moved : Progress D T i p told p') (answered : .Answered cb result ∈ told) (success : result.success = true) :
    Joined D result := by
  obtain ⟨e, rfl, state, ready, leg, _⟩ := success_progress moved answered success
  cases moved with
  | quiet _ _ | awaitLocalisation _ _ _ | awaitRoute _ _ _ | awaitEta _ _ _ => cases state.symm.trans ready
  | initialised _ _ | publishPose _ | localised _ _ | publishGoal _ | routeSet _ _ | endPickup _ _ _ _ _ _ _ _ _ =>
    cases ready
  | fail _ closed _ => cases closed.state.symm.trans ready
  | drive _ _ _ _ _ way _ _ _ _ =>
    rw [state] at way
    cases way
  | endTrip d t _ _ _ =>
    have query : querying p.state = true := by simp [state, querying]
    obtain ⟨first, meet⟩ := chained.pickup query leg
    have own : Joined D { p.result with tripLeg := ⟨true, d, t, p.startId, p.goalId, ""⟩, success := true } :=
      ⟨first, chained.leg query, meet⟩
    cases asked : p.cb with
    | none => simp [Queries.answered, asked] at answered
    | some cb' =>
      simp only [Queries.answered, asked, Option.map_some, Option.toList_some, List.mem_append, List.mem_singleton,
        Notice.Answered.injEq, reduceCtorEq, or_false] at answered
      rw [answered.2]
      exact own

end

/-! ### Runs -/

section
variable [Div R] {D : MapData R} {T : TripTimings} {past : History (World R κ) (Input R κ) (Output R κ)}
variable {w w' : World R κ} {i : Input R κ} {os : List (Output R κ)}

/-- A query opens with a leg to a lane that is reachable. -/
theorem opened_reached {e : Env R} {start goal : GPSCoordinate R} {cb : Option κ}
    (stepped : step D T w (.Handle e (.QueryEta start goal cb)) = .ok (w', os))
    (idle : w.ctrl.status.state = .Idle) (asked : querying w'.ctrl.status.state = true) :
    Reached D w'.ctrl.status.startLaneletId w'.ctrl.status.goalLaneletId := by
  obtain ⟨c, applied, _, rfl⟩ := handle_cases stepped
  obtain ⟨r, ran, rfl⟩ := map_ok applied
  have same : ∀ {w₁ w₂ : World R κ} (b : Bool), w₁.ctrl.status = r.1.status → w₂.ctrl.status = r.1.status →
      (if b then w₁ else w₂).ctrl.status = r.1.status := by
    intro w₁ w₂ b first second
    cases b
    · exact second
    · exact first
  rw [same _ rfl rfl] at asked ⊢
  rcases queryEta_cases ran with ⟨_, reason, refused⟩ | ⟨_, _, vehiclePose, _, started⟩
  · have kept : r.1.status = w.ctrl.status := by
      rw [refused]
      cases cb <;> rfl
    rw [kept, idle] at asked
    cases asked
  · rcases startQueryLeg_cases started with ⟨_, _, _, _, failed⟩ | ⟨_, fromLane, toLane, _, _, _, _, found, leads⟩
    · rw [failed, failQuery_eq] at asked
      cases asked
    · rw [leads]
      exact ⟨fromLane.laneId, toLane.laneId, start, by simp [legStatus], by simp [legStatus], found⟩

theorem chained_run (run : Runs (machine D T) past w) : Chained D (pipelineOf w.ctrl) := by
  refine run.invariant (I := fun _ w => Chained D (pipelineOf w.ctrl)) ?_ ?_
  · rintro _ ⟨m, now, _, rfl⟩
    unfold initialWorld TripController.initializeInMap
    dsimp only
    split <;> exact chained_idle rfl nofun rfl
  · intro past w i os w' earlier chained stepped
    refine chained_step chained (step_progress earlier stepped) ?_
    rintro e start goal cb rfl idle asked
    exact opened_reached stepped idle asked

end

/-! ### Islands -/

section
variable {D : MapData R} {G : RoutingGraph R}

/-- One of the components has the three lanes of a result. -/
def OnOneIsland (components : List (List LaneId)) (r : EtaQueryResult R) : Prop :=
  ∃ component ∈ components, ∃ vehicle ∈ component, ∃ pickup ∈ component, ∃ goal ∈ component,
    r.pickupLeg.startLaneId = toString64 vehicle ∧ r.pickupLeg.goalLaneId = toString64 pickup ∧
      r.tripLeg.startLaneId = toString64 pickup ∧ r.tripLeg.goalLaneId = toString64 goal

/-- The lanelets of a search, which selects a drivable one. -/
theorem selected_reachable {gps : GPSCoordinate R} {a b : LaneId}
    (selected : nearestConnectedLane D gps a true = .ok (some b)) :
    ∃ start goal, getLanelet D a = .ok start ∧ goal ∈ D.reachableSet start ((8000 : Nat) : R) ∧
      goal.id = b ∧ drivable goal = true := by
  unfold nearestConnectedLane at selected
  split at selected
  · cases selected
  · obtain ⟨start, found, rest⟩ := bind_ok selected
    dsimp only at rest
    by_cases valid : bestLane D (gpsToLocal D gps) (connectedLanes D start true) = InvalId
    · rw [if_pos valid] at rest
      cases rest
    · rw [if_neg valid] at rest
      cases rest
      obtain ⟨goal, member, own, same⟩ := (bestLane_drivable (D := D) _ _).resolve_left valid
      exact ⟨start, goal, found, member, same, own⟩

/-- The lanes of a joined result are in the component of its pickup lane. -/
theorem joined_on_island {components : List (List LaneId)} {r : EtaQueryResult R}
    (formed : WellFormed G D.laneletLayer) (are : ConnectedComponents G D.laneletLayer components)
    (along : ∀ a ∈ D.laneletLayer, ∀ b ∈ D.reachableSet a ((8000 : Nat) : R), Connected G a b)
    (joined : Joined D r) : OnOneIsland components r := by
  obtain ⟨vehicle, pickup, _, starts, ends, first⟩ := joined.pickup
  obtain ⟨pickup', goal, _, starts', ends', second⟩ := joined.trip
  obtain rfl : pickup' = pickup := toString64_injective (starts'.symm.trans (joined.meet.trans ends))
  obtain ⟨v, p, foundV, reachedP, rfl, own⟩ := selected_reachable first
  obtain ⟨p', g, foundP, reachedG, rfl, _⟩ := selected_reachable second
  have insideV := getLanelet_mem foundV
  have toPickup := along v insideV p reachedP
  have insideP : p ∈ D.laneletLayer := by
    rw [connected_eq] at toPickup
    exact formed.undirected.reaches_inside insideV toPickup
  obtain rfl : p' = p :=
    List.inj_on_of_nodup_map formed.distinct (getLanelet_mem foundP) insideP (getLanelet_id foundP)
  have toGoal := along p' insideP g reachedG
  have back : Connected G p' v := are.equivalence.symm (x := ⟨v, insideV⟩) (y := ⟨p', insideP⟩) toPickup
  have listed : connectedTo G p' ∈ asSets components := by
    rw [are.classes]
    exact ⟨p', insideP, own, rfl⟩
  obtain ⟨component, member, shown⟩ := listed
  have inside : ∀ {ll : Lanelet R}, Connected G p' ll → ll.id ∈ component := by
    intro ll connected
    have own : ll.id ∈ connectedTo G p' := ⟨ll, connected, rfl⟩
    rwa [shown] at own
  refine ⟨component, member, vehicle, ?_, p'.id, inside .refl, g.id, inside toGoal, starts, ends, starts', ends'⟩
  rw [← getLanelet_id foundV]
  exact inside back

/-- What a step says of lanes is of one component: a success that it answers with,
    and the result to which the goals of the drive belong. -/
structure KeepsToIsland (components : List (List LaneId)) (m : Moment (World R κ) (Input R κ) (Output R κ)) :
    Prop where
  answers : ∀ cb result, .QueryResult cb result ∈ m.outputs → result.success = true →
    OnOneIsland components result
  pickup : ∀ pose, .Goal .WaitingLocalisation pose ∈ m.outputs → OnOneIsland components m.pre.ctrl.queryResult ∧
    m.pre.ctrl.status.startLaneletId = m.pre.ctrl.queryResult.pickupLeg.goalLaneId
  trip : ∀ pose, .Goal .WaitingForMove pose ∈ m.outputs → OnOneIsland components m.pre.ctrl.queryResult ∧
    m.post.ctrl.status.goalLaneletId = m.pre.ctrl.queryResult.tripLeg.goalLaneId

variable [Div R] {T : TripTimings} {past : History (World R κ) (Input R κ) (Output R κ)} {w : World R κ}

/-- Where the routing graph leads to lanes that are connected only, every trip is quoted
    and driven within one of the components that are listed for its map. -/
theorem kept_to_island {order : List (Lanelet R)} {fuel : ℕ} (sort : SizeSort)
    (formed : WellFormed G D.laneletLayer)
    (along : ∀ a ∈ D.laneletLayer, ∀ b ∈ D.reachableSet a ((8000 : Nat) : R), Connected G a b)
    (enough : D.laneletLayer.length < fuel) (iterated : order.Perm D.laneletLayer)
    (run : Runs (machine D T) past w) : ∃ components,
      debugConnectedComponents sort G fuel order = some components ∧
        Along (fun _ m => KeepsToIsland components m) past := by
  obtain ⟨components, shown, are⟩ := listed sort formed enough iterated
  refine ⟨components, shown, run.along fun past w i os w' earlier stepped => ?_⟩
  have chained := chained_run earlier
  have moved := step_progress earlier stepped
  have quoted : driving w.ctrl.status.state = true → OnOneIsland components w.ctrl.queryResult := fun way =>
    joined_on_island formed are along (chained.quoted (.inr way))
  constructor
  · intro cb result answered success
    exact joined_on_island formed are along (answered_joined chained moved (mem_notices answered rfl) success)
  · intro pose goal
    obtain ⟨_, localised⟩ := advance_pickupGoal (step_advance earlier stepped) (mem_signals goal rfl)
    have state : w.ctrl.status.state = .WaitingLocalisation := localised
    exact ⟨quoted (by simp [state, driving]), (pickup_as_quoted earlier stepped goal).2.2.symm⟩
  · intro pose goal
    obtain ⟨_, waiting⟩ := advance_tripGoal (step_advance earlier stepped) (mem_signals goal rfl)
    have state : w.ctrl.status.state = .WaitingForMove := waiting
    exact ⟨quoted (by simp [state, driving]), (trip_as_quoted earlier stepped goal).2.2.symm⟩

end
end

section
attribute [local instance] streetMath

theorem street_connected : ∀ a ∈ street.laneletLayer, ∀ b ∈ street.reachableSet a ((8000 : Nat) : ℚ),
    Connected streetGraph a b := by
  intro a inside b reached
  by_cases same : b = a
  · rw [same]
    exact .refl
  · refine .single (.following ?_)
    revert a b
    decide

/-- A trip on the street, whose three lanes are in the one component of its map. -/
theorem kept_to_island_on_street : ∃ past w, Runs (machine street {} : Machine (World ℚ Unit) _ _ _) past w ∧
    w.ctrl.status.state = .Completed ∧ ∃ components,
      debugConnectedComponents stableSort streetGraph 4 streetLanes.reverse = some components ∧
        Along (fun _ m => KeepsToIsland components m) past := by
  obtain ⟨past, w, run, done⟩ := completed_on_street
  exact ⟨past, w, run, done,
    kept_to_island stableSort streetGraph_formed street_connected (by decide) streetLanes.reverse_perm run⟩

end
end AutowareAgent.Islands
