import AutowareAgent.Bank
import AutowareAgent.RouteBank

/-!
The data of a trip that the gateway's adapter offers. They are read from the
status, which has the start from `startTrip` on, but the goal only once `move`
has been accepted: the status is wiped where the query ends.
-/
namespace AutowareAgent.TripData
open AutowareAgent.Machines AutowareAgent.Lanes AutowareAgent.Trips AutowareAgent.Strand AutowareAgent.Quotes
open AutowareAgent.Queries AutowareAgent.Bank AutowareAgent.RouteBank

structure TripInitData (R : Type) where
  requestId : Int64
  startLong : R
  startLat : R
  endLong : R
  endLat : R
  deriving DecidableEq, Repr

section
variable {R κ : Type}

/-- `AutowareControllerTripAdapter::GetTripInitData`, of the status that `getTripStatusSync` returns. -/
def getTripInitData (activeTripId : Int64) (s : TripStatus R) : TripInitData R where
  requestId := activeTripId
  startLong := s.startGps.longitude
  startLat := s.startGps.latitude
  endLong := s.goalGps.longitude
  endLat := s.goalGps.latitude

/-- The data of a trip between two points. -/
def between (activeTripId : Int64) (start goal : GPSCoordinate R) : TripInitData R where
  requestId := activeTripId
  startLong := start.longitude
  startLat := start.latitude
  endLong := goal.longitude
  endLat := goal.latitude

/-- A query between the points is accepted. -/
def Asks (start goal : GPSCoordinate R) (m : Moment (World R κ) (Input R κ) (Output R κ)) : Prop :=
  (∃ e cb, m.input = .Handle e (.QueryEta start goal cb)) ∧ .Returned true ∈ m.outputs

/-- The query that was accepted last was between the points. -/
def LastAsked (past : History (World R κ) (Input R κ) (Output R κ)) (start goal : GPSCoordinate R) : Prop :=
  ∃ newer q older, past = newer ++ q :: older ∧ Asks start goal q ∧ ∀ k ∈ newer, ∀ start goal, ¬ Asks start goal k

/-- A move is accepted: the trip leg is engaged. -/
def Moves (m : Moment (World R κ) (Input R κ) (Output R κ)) : Prop :=
  m.pre.ctrl.status.state = .WaitingForMove ∧ m.post.ctrl.status.state = .Engaging

/-- A trip that was accepted and not cancelled is offered with the points of its
    query exactly once a move was accepted, or where the zero point is its goal. -/
def OfferedIff [Zero R] (past : History (World R κ) (Input R κ) (Output R κ)) (w : World R κ) : Prop :=
  ∀ newer n older, past = newer ++ n :: older → accepts n → (∀ k ∈ newer, cancels k = false) →
    ∃ start goal, LastAsked older start goal ∧
      ((∀ id, getTripInitData id w.ctrl.status = between id start goal) ↔ (∃ k ∈ newer, Moves k) ∨ goal = ⟨0, 0⟩)

theorem gps_ext {p q : GPSCoordinate R} (latitude : p.latitude = q.latitude) (longitude : p.longitude = q.longitude) :
    p = q := by
  cases p
  cases q
  cases latitude
  cases longitude
  rfl

/-- The adapter offers the points that the status tells. -/
theorem getTripInitData_iff {id : Int64} {s : TripStatus R} {start goal : GPSCoordinate R} :
    getTripInitData id s = between id start goal ↔ s.startGps = start ∧ s.goalGps = goal := by
  constructor
  · intro same
    simp only [getTripInitData, between, TripInitData.mk.injEq] at same
    obtain ⟨_, startLong, startLat, endLong, endLat⟩ := same
    exact ⟨gps_ext startLat startLong, gps_ext endLat endLong⟩
  · rintro ⟨rfl, rfl⟩
    rfl

/-! ### Queries -/

/-- What the bank tells of the last query. -/
structure Recalls [Zero R] (past : History (World R κ) (Input R κ) (Output R κ)) (h : Holdings R) : Prop where
  query : querying h.state = true → LastAsked past h.start h.goal
  pickup : querying h.state = true → h.leg = .Trip → ∃ held, h.pickup = some held ∧ held.goalGps = h.start
  ready : h.state = .RoutesReady → LastAsked past h.start h.goal ∧
    (∃ held, h.pickup = some held ∧ held.goalGps = h.start) ∧
    (∃ held, h.trip = some held ∧ held.goalGps = h.goal) ∧ h.goalGps = ⟨0, 0⟩

section
variable {past : History (World R κ) (Input R κ) (Output R κ)} {m : Moment (World R κ) (Input R κ) (Output R κ)}
variable {start goal : GPSCoordinate R}

theorem LastAsked.later (last : LastAsked past start goal) (quiet : ∀ start goal, ¬ Asks start goal m) :
    LastAsked (m :: past) start goal := by
  obtain ⟨newer, q, older, split, asks, silent⟩ := last
  exact ⟨m :: newer, q, older, by rw [split]; rfl, asks, List.forall_mem_cons.mpr ⟨quiet, silent⟩⟩

theorem lastAsked_asks (asks : Asks start goal m) : LastAsked (m :: past) start goal :=
  ⟨[], m, past, rfl, asks, List.forall_mem_nil _⟩

end

variable [Zero R] {past : History (World R κ) (Input R κ) (Output R κ)}
variable {m : Moment (World R κ) (Input R κ) (Output R κ)} {h h' : Holdings R}

/-- Outside of queries and where no routes are ready there is nothing to recall. -/
theorem recalls_outside (outside : querying h.state = false) (other : h.state ≠ .RoutesReady) : Recalls past h := by
  refine ⟨fun query => ?_, fun query => ?_, fun ready => absurd ready other⟩ <;>
  · rw [outside] at query
    cases query

/-- A query goes on. -/
theorem recalls_query (recalls : Recalls past h) (quiet : h.state ≠ .Idle → ∀ start goal, ¬ Asks start goal m)
    (query : querying h.state = true) (still : querying h'.state = true)
    (same : h'.leg = h.leg ∧ h'.start = h.start ∧ h'.goal = h.goal ∧ h'.pickup = h.pickup) :
    Recalls (m :: past) h' := by
  obtain ⟨leg, start, goal, pickup⟩ := same
  have busy : h.state ≠ .Idle := by
    intro idle
    rw [idle] at query
    cases query
  refine ⟨fun _ => ?_, fun _ trip => ?_, fun ready => ?_⟩
  · rw [start, goal]
    exact (recalls.query query).later (quiet busy)
  · rw [pickup, start]
    exact recalls.pickup query (leg.symm.trans trip)
  · rw [ready] at still
    cases still

/-- Every step keeps what the bank tells of the last query, if a query is
    accepted where none is under way, and each one that begins was accepted. -/
theorem recalls_step (recalls : Recalls past h) (carried : Carries m.input h h')
    (quiet : h.state ≠ .Idle → ∀ start goal, ¬ Asks start goal m)
    (opens : h'.state = .QueryPublishingInitialPose → h.state = .Idle → .Returned true ∈ m.outputs) :
    Recalls (m :: past) h' := by
  have stay : ∀ {last received}, Recalls (m :: past) { h with last := last, received := received } := by
    intro last received
    by_cases query : querying h.state = true
    · exact recalls_query recalls quiet query query ⟨rfl, rfl, rfl, rfl⟩
    · by_cases ready : h.state = .RoutesReady
      · obtain ⟨asked, held⟩ := recalls.ready ready
        refine ⟨fun now => absurd now query, fun now => absurd now query, fun _ => ⟨?_, held⟩⟩
        exact asked.later (quiet (by simp [ready]))
      · exact recalls_outside (Bool.eq_false_iff.mpr query) ready
  cases carried with
  | stay _ => exact stay
  | receive route _ => exact stay
  | opened start goal asked idle =>
    obtain ⟨e, cb, input⟩ := asked
    have asks : Asks start goal m := ⟨⟨e, cb, input⟩, opens rfl idle⟩
    refine ⟨fun _ => lastAsked_asks asks, ?_, ?_⟩
    · intro _ leg
      cases leg
    · intro ready
      cases ready
  | next s _ query later =>
    have still : querying s = true := by rcases later with rfl | rfl | rfl <;> rfl
    exact recalls_query recalls quiet query still ⟨rfl, rfl, rfl, rfl⟩
  | publish state => exact recalls_query recalls quiet (by simp [state, querying]) rfl ⟨rfl, rfl, rfl, rfl⟩
  | endPickup held state _ _ own =>
    have asked := (recalls.query (by simp [state, querying])).later (quiet (by simp [state]))
    refine ⟨fun _ => asked, fun _ _ => ⟨held, rfl, own⟩, ?_⟩
    intro ready
    cases ready
  | endTrip held state leg _ own =>
    have query : querying h.state = true := by simp [state, querying]
    have asked := (recalls.query query).later (quiet (by simp [state]))
    refine ⟨?_, ?_, fun _ => ⟨asked, recalls.pickup query leg, ⟨held, rfl, own⟩, rfl⟩⟩
    · intro query
      cases query
    · intro query
      cases query
  | accept _ _ _ | move _ _ _ =>
    apply recalls_outside rfl
    intro ready
    cases ready
  | drive s _ _ next _ =>
    refine recalls_outside (querying_of_driving next) ?_
    rintro rfl
    cases next
  | ends state =>
    obtain ⟨outside, _, _, other⟩ := ended_outside state
    exact recalls_outside outside other

/-! ### The trip -/

/-- Where the routes are ready only an accepted trip leads to the drive. -/
theorem carries_accept {i : Input R κ} (carried : Carries i h h') (ready : h.state = .RoutesReady)
    (way : driving h'.state = true) : h'.trip = h.trip ∧ h'.goalGps = h.goalGps ∧
      ∃ held, h.pickup = some held ∧ h'.startGps = held.goalGps := by
  cases carried with
  | accept held pickup _ => exact ⟨rfl, rfl, held, pickup, rfl⟩
  | stay _ | receive _ _ => rw [show h.state = _ from ready] at way; cases way
  | opened _ _ _ idle => cases ready.symm.trans idle
  | next _ _ query _ => rw [ready] at query; cases query
  | publish state | endPickup _ state _ _ _ | endTrip _ state _ _ _ => cases ready.symm.trans state
  | drive _ _ before _ _ => rw [ready] at before; cases before
  | move _ _ state => cases ready.symm.trans state
  | ends state => cases (ended_outside state).2.2.1.symm.trans way

/-- On the way the start stays, and the goal changes where a move is accepted, to that of the trip's route. -/
theorem carries_driving {i : Input R κ} (carried : Carries i h h') (way : driving h.state = true)
    (next : driving h'.state = true) : h'.trip = h.trip ∧ h'.startGps = h.startGps ∧
      ((h.state = .WaitingForMove ∧ h'.state = .Engaging) ∧ (∃ held, h.trip = some held ∧ h'.goalGps = held.goalGps) ∨
        ¬ (h.state = .WaitingForMove ∧ h'.state = .Engaging) ∧ h'.goalGps = h.goalGps) := by
  cases carried with
  | stay _ | receive _ _ =>
    refine ⟨rfl, rfl, .inr ⟨?_, rfl⟩⟩
    rintro ⟨waiting, engaging⟩
    cases waiting.symm.trans engaging
  | drive s _ _ _ other => exact ⟨rfl, rfl, .inr ⟨fun both => other both.1, rfl⟩⟩
  | move held trip state => exact ⟨rfl, rfl, .inl ⟨⟨state, rfl⟩, held, trip, rfl⟩⟩
  | opened _ _ _ state | publish state | endPickup _ state _ _ _ | endTrip _ state _ _ _ => rw [state] at way; cases way
  | next _ _ query _ => rw [querying_of_driving way] at query; cases query
  | accept _ _ before => rcases before with state | state <;> rw [state] at way <;> cases way
  | ends state => cases (ended_outside state).2.2.1.symm.trans next

end

/-! ### Runs -/

section
variable {R κ : Type} [Zero R] [Add R] [Sub R] [Mul R] [Div R] [NatCast R] [LT R] [DecidableLT R] [CMath R]
variable {D : MapData R} {T : TripTimings} {past : History (World R κ) (Input R κ) (Output R κ)} {w : World R κ}

omit [Div R] in
/-- A query is accepted in `Idle` only. -/
theorem asks_idle {e : Env R} {start goal : GPSCoordinate R} {cb : Option κ} {p p' : Pipeline R κ}
    {told : List (Notice R κ)} (moved : Progress D T (.Handle e (.QueryEta start goal cb)) p told p')
    (returned : .Returned true ∈ told) : p.state = .Idle := by
  have answers : ∀ {r : EtaQueryResult R}, .Returned true ∉ answered cb r := by
    intro r
    cases cb <;> simp [answered]
  cases moved with
  | quiet calm _ => exact absurd calm id
  | refuse _ => simp [answers] at returned
  | failOpen idle _ _ => exact idle
  | openQuery _ _ idle => exact idle
  | drive _ _ _ _ drives _ _ _ _ _ => exact absurd drives id

omit [Div R] in
/-- A query that begins was accepted. -/
theorem opens_returned {i : Input R κ} {p p' : Pipeline R κ} {told : List (Notice R κ)}
    (moved : Progress D T i p told p') (idle : p.state = .Idle) (opens : p'.state = .QueryPublishingInitialPose) :
    .Returned true ∈ told := by
  cases moved with
  | openQuery _ _ _ => simp
  | quiet _ _ | refuse _ | locState _ | routeState _ | eta _ _ _ | refuseTrip _ | awaitLocalisation _ _ _
  | awaitRoute _ _ _ | awaitEta _ _ _ => cases idle.symm.trans opens
  | cancel closed | failOpen _ closed _ | fail _ closed _ => cases closed.state.symm.trans opens
  | initialised _ _ | publishPose _ | localised _ _ | publishGoal _ | routeSet _ _ | endTrip _ _ _ _ _
  | acceptTrip _ _ => cases opens
  | endPickup _ _ _ _ state _ _ _ _ => cases idle.symm.trans state
  | drive _ _ _ _ _ way _ _ _ _ => rw [idle] at way; cases way

theorem recalls_run (run : Runs (machine D T) past w) : Recalls past (holdingsOf w.ctrl) := by
  refine run.invariant (I := fun past w => Recalls past (holdingsOf w.ctrl)) ?_ ?_
  · rintro _ ⟨m, now, _, rfl⟩
    simp only [initialWorld, TripController.initializeInMap]
    split <;> exact recalls_outside rfl fun ready => by cases ready
  · intro past w i os w' earlier recalls stepped
    have moved := step_progress earlier stepped
    refine recalls_step recalls (step_carries stepped) ?_ ?_
    · rintro busy start goal ⟨⟨e, cb, input⟩, returned⟩
      obtain rfl : i = .Handle e (.QueryEta start goal cb) := input
      exact busy (asks_idle moved (mem_notices returned rfl))
    · intro opens idle
      have told := opens_returned moved idle opens
      obtain ⟨o, member, made⟩ := List.mem_filterMap.mp told
      cases o <;> cases made
      exact member

/-- What the status of an accepted trip tells: its start, and its goal once a move was accepted. -/
structure Tells (start goal : GPSCoordinate R) (newer : History (World R κ) (Input R κ) (Output R κ)) (h : Holdings R) :
    Prop where
  way : driving h.state = true
  trip : ∃ held, h.trip = some held ∧ held.goalGps = goal
  start : h.startGps = start
  goal : (∃ k ∈ newer, Moves k) ∧ h.goalGps = goal ∨ (∀ k ∈ newer, ¬ Moves k) ∧ h.goalGps = ⟨0, 0⟩

omit [Add R] [Sub R] [Mul R] [Div R] [NatCast R] [LT R] [DecidableLT R] [CMath R] in
theorem tells_step {start goal : GPSCoordinate R} {newer : History (World R κ) (Input R κ) (Output R κ)}
    {k : Moment (World R κ) (Input R κ) (Output R κ)} (tells : Tells start goal newer (holdingsOf k.pre.ctrl))
    (carried : Carries k.input (holdingsOf k.pre.ctrl) (holdingsOf k.post.ctrl))
    (next : driving k.post.ctrl.status.state = true) : Tells start goal (k :: newer) (holdingsOf k.post.ctrl) := by
  obtain ⟨way, ⟨held, banked, own⟩, started, goals⟩ := tells
  obtain ⟨trip, kept, moved⟩ := carries_driving carried way next
  refine ⟨next, ⟨held, trip.trans banked, own⟩, kept.trans started, ?_⟩
  rcases moved with ⟨moves, held', banked', set⟩ | ⟨stays, same⟩
  · cases banked.symm.trans banked'
    exact .inl ⟨⟨k, List.mem_cons_self, moves⟩, set.trans own⟩
  · rcases goals with ⟨⟨n, member, moves⟩, set⟩ | ⟨none, unset⟩
    · exact .inl ⟨⟨n, List.mem_cons_of_mem _ member, moves⟩, same.trans set⟩
    · exact .inr ⟨List.forall_mem_cons.mpr ⟨stays, none⟩, same.trans unset⟩

/-- In every state of an accepted trip that was not cancelled. -/
theorem tells_run {newer older : History (World R κ) (Input R κ) (Output R κ)}
    {n : Moment (World R κ) (Input R κ) (Output R κ)} (run : Runs (machine D T) (newer ++ n :: older) w)
    (accepted : accepts n) (kept : ∀ k ∈ newer, cancels k = false) :
    ∃ start goal, LastAsked older start goal ∧ Tells start goal newer (holdingsOf w.ctrl) := by
  obtain ⟨_, at_start⟩ := run.suffix
  obtain ⟨before, stepped, _⟩ := at_start.inv
  obtain ⟨⟨e, asked⟩, returned⟩ := accepted
  have moved := step_progress before stepped
  rw [asked] at moved
  obtain ⟨ready, way⟩ := accepted_progress moved (mem_notices returned rfl)
  obtain ⟨last, ⟨pickup, banked, own⟩, trip, unset⟩ := (recalls_run before).ready ready
  obtain ⟨same, goal, held, banked', started⟩ := carries_accept (step_carries stepped) ready way
  cases banked.symm.trans banked'
  refine ⟨_, _, last, run.segment (C := fun k => cancels k = false)
    (I := fun newer w => Tells _ _ newer (holdingsOf w.ctrl)) ?_ ?_ kept⟩
  · exact ⟨way, by rw [same]; exact trip, started.trans own, .inr ⟨List.forall_mem_nil _, goal.trans unset⟩⟩
  · intro newer k earlier tells stepped other
    refine tells_step tells (step_carries stepped) (driving_progress tells.way (step_progress earlier stepped) ?_)
    intro e cancelled
    simp [cancels, cancelled] at other

/-- In every state of every run the data that are offered are those of the
    accepted trip exactly once a move was accepted, or for a trip to the zero point. -/
theorem offered_iff (run : Runs (machine D T) past w) : OfferedIff past w := by
  rintro newer n older rfl accepted kept
  obtain ⟨start, goal, last, _, _, started, goals⟩ := tells_run run accepted kept
  refine ⟨start, goal, last, ?_⟩
  have told : (∀ id, getTripInitData id w.ctrl.status = between id start goal) ↔ w.ctrl.status.goalGps = goal := by
    constructor
    · intro offered
      exact (getTripInitData_iff.mp (offered 0)).2
    · intro set id
      exact getTripInitData_iff.mpr ⟨started, set⟩
  rw [told]
  rcases goals with ⟨moved, set⟩ | ⟨none, unset⟩
  · exact ⟨fun _ => .inl moved, fun _ => set⟩
  · constructor
    · intro set
      exact .inr (set.symm.trans unset)
    · rintro (⟨k, member, moves⟩ | zero)
      · exact absurd moves (none k member)
      · exact unset.trans zero.symm

end

section
attribute [local instance] streetMath

/-- The trip on the street once its move was accepted. -/
theorem offered_iff_on_street : ∃ past w, Runs (machine street {} : Machine (World ℚ Unit) _ _ _) past w ∧
    (w.ctrl.status.state = .Engaging ∧ getTripInitData 7 w.ctrl.status = between 7
      ⟨35 + 688 / 1000, 139 + 69060 / 100000⟩ ⟨35 + 688 / 1000, 139 + 69190 / 100000⟩) ∧ OfferedIff past w := by
  obtain ⟨past, w, run, moved⟩ := exists_run (M := machine street {}) (s := initialWorld .fresh 0)
    (tripOnStreet (some ()) ++ pickupOnStreet) fresh_starts
    (fun _ w => decide (w.ctrl.status.state = .Engaging ∧ getTripInitData 7 w.ctrl.status = between 7
      ⟨35 + 688 / 1000, 139 + 69060 / 100000⟩ ⟨35 + 688 / 1000, 139 + 69190 / 100000⟩)) (by decide +kernel)
  exact ⟨past, w, run, by simpa using moved, offered_iff run⟩

/-- A trip on the street that was just accepted is offered without its goal. -/
theorem goal_not_offered : ∃ n older w, Runs (machine street {} : Machine (World ℚ Unit) _ _ _) (n :: older) w ∧
    accepts n ∧ ∃ start goal, LastAsked older start goal ∧ getTripInitData 7 w.ctrl.status ≠ between 7 start goal := by
  obtain ⟨newer, n, older, w, run, test⟩ := exists_run_at (M := machine street {}) (s := initialWorld .fresh 0)
    (quoteOnStreet (some ()) ++ eachSecond 16 [.StartTrip]) fresh_starts 0
    (fun newer n _ w => decide (newer = [] ∧ n.input = .Handle (streetAt 16) .StartTrip ∧
      Output.Returned true ∈ n.outputs ∧ w.ctrl.status.goalGps = ⟨0, 0⟩ ∧ w.ctrl.tripRoute.map HeldRoute.goalGps =
        some ⟨35 + 688 / 1000, 139 + 69190 / 100000⟩)) (by decide +kernel)
  simp only [decide_eq_true_eq] at test
  obtain ⟨rfl, input, returned, unset, route⟩ := test
  have accepted : accepts n := ⟨⟨_, input⟩, returned⟩
  obtain ⟨start, goal, last, tells⟩ := tells_run run accepted (List.forall_mem_nil _)
  refine ⟨n, older, w, run, accepted, start, goal, last, fun offered => ?_⟩
  obtain ⟨held, banked, own⟩ := tells.trip
  rw [show w.ctrl.tripRoute = some held from banked, Option.map_some, own, ← (getTripInitData_iff.mp offered).2,
    unset] at route
  exact absurd route (by decide +kernel)

end
end AutowareAgent.TripData
