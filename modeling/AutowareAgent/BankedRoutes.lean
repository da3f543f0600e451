import AutowareAgent.LegData
import AutowareAgent.RouteBank

/-!
The routes that a query banks. A finished leg banks the last route that was
received, whenever that was; the flag that tells of a route since the leg's goal
is set and cleared but never asked for. The routes that a query holds in the end
are those of its legs where the flag was up at the end of each leg.
-/
namespace AutowareAgent.BankedRoutes
open AutowareAgent.Machines AutowareAgent.Lanes AutowareAgent.Trips AutowareAgent.Strand AutowareAgent.Quotes
open AutowareAgent.Queries AutowareAgent.LegData AutowareAgent.RouteBank

section
variable {R κ : Type}

/-- The history since the goal of the leg was published first. Its route is
    awaited and its ETA is read in it. -/
def Since (leg : QueryLeg) (part past : History (World R κ) (Input R κ) (Output R κ)) : Prop :=
  ∃ goal before e, past = part ++ goal :: before ∧ Ticks e leg .QueryPublishingGoal .QueryWaitingRoute goal ∧
    (∃ pose, .Goal .QueryPublishingGoal pose ∈ goal.outputs) ∧
    ∀ n ∈ part, published n.post.ctrl.status.state = true

/-- The route was received since the goal of the leg was published. -/
def OwnRoute (leg : QueryLeg) (past : History (World R κ) (Input R κ) (Output R κ)) (route : LaneletRoute) : Prop :=
  ∃ part, Since leg part past ∧ ∃ n ∈ part, routeOf n.input = some route

/-- The tick ended the pickup leg, and only the trip leg has been queried since. -/
def PickupEnd (ended : Moment (World R κ) (Input R κ) (Output R κ))
    (before past : History (World R κ) (Input R κ) (Output R κ)) : Prop :=
  ∃ trip e, past = trip ++ ended :: before ∧ Ticks e .Pickup .QueryReadingEta .QueryPublishingInitialPose ended ∧
    ∀ n ∈ trip, querying n.post.ctrl.status.state = true ∧ n.post.ctrl.currentLeg = .Trip

/-- A query succeeds: its routes become ready. -/
def Succeeds (m : Moment (World R κ) (Input R κ) (Output R κ)) : Prop :=
  m.pre.ctrl.status.state ≠ .RoutesReady ∧ m.post.ctrl.status.state = .RoutesReady

/-- Each of the two routes was received for its leg: the pickup leg's before the
    trip leg began. -/
def OwnRoutes (past : History (World R κ) (Input R κ) (Output R κ))
    (m : Moment (World R κ) (Input R κ) (Output R κ)) : Prop :=
  (∃ held, m.post.ctrl.pickupRoute = some held ∧
    ∃ ended before, PickupEnd ended before past ∧ OwnRoute .Pickup before held.route) ∧
  ∃ held, m.post.ctrl.tripRoute = some held ∧ OwnRoute .Trip past held.route

/-- The flag was up when each of the two legs ended. -/
def FlagUp (past : History (World R κ) (Input R κ) (Output R κ))
    (m : Moment (World R κ) (Input R κ) (Output R κ)) : Prop :=
  (∃ ended before, PickupEnd ended before past ∧ ended.pre.ctrl.routeReceived = true) ∧
  m.pre.ctrl.routeReceived = true

/-- A query that succeeds holds its own routes exactly where the flag was up. -/
def OwnRoutesIff (past : History (World R κ) (Input R κ) (Output R κ))
    (m : Moment (World R κ) (Input R κ) (Output R κ)) : Prop :=
  Succeeds m → (OwnRoutes past m ↔ FlagUp past m)

/-! ### Steps -/

end

section
variable {R κ : Type} [Zero R] {i : Input R κ} {h h' : Holdings R}

theorem carries_publish (carried : Carries i h h') (prev : h.state = .QueryPublishingGoal)
    (next : h'.state = .QueryWaitingRoute) : h'.received = false := by
  cases carried with
  | publish _ => rfl
  | stay _ | receive _ _ => cases prev.symm.trans next
  | next s _ _ later =>
    obtain rfl : s = .QueryWaitingRoute := next
    simp at later
  | opened _ _ _ _ | endPickup _ _ _ _ _ | endTrip _ _ _ _ _ | accept _ _ _ | move _ _ _ => cases next
  | drive _ _ way _ _ => rw [prev] at way; cases way
  | ends state => simp [next] at state

theorem carries_endPickup (carried : Carries i h h') (prev : h.state = .QueryReadingEta)
    (next : h'.state = .QueryPublishingInitialPose) :
    h'.leg = .Trip ∧ ∃ held, h'.pickup = some held ∧ held.route = h.last.getD ⟨[]⟩ := by
  cases carried with
  | endPickup held _ _ route _ => exact ⟨rfl, held, rfl, route⟩
  | stay _ | receive _ _ => cases prev.symm.trans next
  | next s _ _ later =>
    obtain rfl : s = .QueryPublishingInitialPose := next
    simp at later
  | opened _ _ _ idle => cases prev.symm.trans idle
  | publish _ | endTrip _ _ _ _ _ | accept _ _ _ | move _ _ _ => cases next
  | drive _ _ way _ _ => rw [prev] at way; cases way
  | ends state => simp [next] at state

/-- While the trip leg is queried the bank keeps the route of the pickup leg. -/
theorem carries_tripLeg (carried : Carries i h h') (query : querying h.state = true) (leg : h.leg = .Trip)
    (still : querying h'.state = true) : h'.pickup = h.pickup := by
  cases carried with
  | stay _ | receive _ _ | next _ _ _ _ | publish _ | endTrip _ _ _ _ _ => rfl
  | accept _ _ _ | drive _ _ _ _ _ | move _ _ _ => rfl
  | endPickup _ _ pickup _ _ => cases leg.symm.trans pickup
  | opened _ _ _ idle => rw [idle] at query; cases query
  | ends state => cases (ended_outside state).1.symm.trans still

/-- The routes become ready where the trip leg ends. -/
theorem carries_ready (carried : Carries i h h') (other : h.state ≠ .RoutesReady) (ready : h'.state = .RoutesReady) :
    h.state = .QueryReadingEta ∧ h.leg = .Trip ∧ h'.pickup = h.pickup ∧
      ∃ held, h'.trip = some held ∧ held.route = h.last.getD ⟨[]⟩ := by
  cases carried with
  | endTrip held state leg route _ => exact ⟨state, leg, rfl, held, rfl, route⟩
  | stay _ | receive _ _ => exact absurd ready other
  | next s _ _ later =>
    obtain rfl : s = .RoutesReady := ready
    simp at later
  | opened _ _ _ _ | publish _ | endPickup _ _ _ _ _ | accept _ _ _ | move _ _ _ => cases ready
  | drive s _ _ next _ =>
    obtain rfl : s = .RoutesReady := ready
    cases next
  | ends state => exact absurd ready (ended_outside state).2.2.2

end

section
variable {R κ : Type} [Zero R] [Add R] [Sub R] [Mul R] [Div R] [NatCast R] [LT R] [DecidableLT R] [CMath R]
variable {D : MapData R} {T : TripTimings}

/-! ### Runs -/

variable {past : History (World R κ) (Input R κ) (Output R κ)} {w w' : World R κ}

/-- The route that was received last. -/
def lastReceived (past : History (World R κ) (Input R κ) (Output R κ)) : Option LaneletRoute :=
  past.findSome? fun m => routeOf m.input

/-- The flag tells whether a route was received, and the last one is kept. -/
structure Heard (past : History (World R κ) (Input R κ) (Output R κ)) (h : Holdings R) : Prop where
  received : h.received = (lastReceived past).isSome
  last : ∀ route, lastReceived past = some route → h.last = some route

omit [Add R] [Sub R] [Mul R] [Div R] [NatCast R] [LT R] [DecidableLT R] [CMath R] in
/-- While the goal of a leg is published, the flag and the last route change with the messages only. -/
theorem heard_step {part : History (World R κ) (Input R κ) (Output R κ)}
    {m : Moment (World R κ) (Input R κ) (Output R κ)} {h h' : Holdings R} (heard : Heard part h)
    (carried : Carries m.input h h') (before : published h.state = true) (after : published h'.state = true) :
    Heard (m :: part) h' := by
  obtain ⟨received, last⟩ := heard
  cases carried with
  | stay silent | next _ silent _ _ =>
    have same : lastReceived (m :: part) = lastReceived part := by simp [lastReceived, silent]
    exact ⟨by rw [same]; exact received, by rw [same]; exact last⟩
  | receive route own =>
    have new : lastReceived (m :: part) = some route := by simp [lastReceived, own]
    refine ⟨by simp [new], fun r found => ?_⟩
    rw [new] at found
    exact found
  | publish state => rw [state] at before; cases before
  | opened _ _ _ _ | endPickup _ _ _ _ _ | endTrip _ _ _ _ _ | accept _ _ _ | move _ _ _ => cases after
  | drive _ _ way _ _ => cases now : h.state <;> rw [now] at before way <;> cases before <;> cases way
  | ends state => cases (ended_outside state).2.1.symm.trans after

/-- Since the goal of a leg was published the flag tells whether a route was received. -/
theorem heard_since {leg : QueryLeg} {part : History (World R κ) (Input R κ) (Output R κ)}
    (run : Runs (machine D T) past w) (since : Since leg part past) : Heard part (holdingsOf w.ctrl) := by
  obtain ⟨goal, before, e, rfl, ticks, _, all⟩ := since
  refine (run.segment (C := fun n => published n.post.ctrl.status.state = true)
    (I := fun part w => published w.ctrl.status.state = true ∧ Heard part (holdingsOf w.ctrl)) ?_ ?_ all).2
  · obtain ⟨_, sent⟩ := run.suffix
    obtain ⟨_, stepped, _⟩ := sent.inv
    exact ⟨by rw [ticks.next]; rfl, carries_publish (step_carries stepped) ticks.prev ticks.next, nofun⟩
  · intro part n earlier ⟨before, heard⟩ stepped after
    exact ⟨after, heard_step heard (step_carries stepped) before after⟩

/-- A route that was received for the leg puts the flag up. -/
theorem flag_of_ownRoute {leg : QueryLeg} {route : LaneletRoute} (run : Runs (machine D T) past w)
    (own : OwnRoute leg past route) : w.ctrl.routeReceived = true := by
  obtain ⟨part, since, n, member, received⟩ := own
  have heard := (heard_since run since).received
  rw [lastReceived, List.findSome?_isSome_iff.mpr ⟨n, member, by simp [received]⟩] at heard
  exact heard

/-- Where the flag is up when a leg ends, the last route is the leg's own. -/
theorem ownRoute_of_flag (run : Runs (machine D T) past w) (state : w.ctrl.status.state = .QueryReadingEta)
    (flag : w.ctrl.routeReceived = true) :
    OwnRoute w.ctrl.currentLeg past (w.ctrl.lastRoute.getD ⟨[]⟩) := by
  obtain ⟨reading, e, ⟨entry, before, rfl, enters, ⟨waiting, ⟨goal, older, e', rfl, ticks, sent, wait⟩, _⟩, read⟩, _⟩ :=
    (sourced_run run).reading state
  have since : Since w.ctrl.currentLeg (reading ++ entry :: waiting)
      (reading ++ entry :: (waiting ++ goal :: older)) := by
    refine ⟨goal, older, e', by simp, ticks, sent, fun n member => ?_⟩
    rcases List.mem_append.mp member with first | member
    · rw [read n first]
      rfl
    · rcases List.mem_cons.mp member with rfl | later
      · rw [enters.next]
        rfl
      · rw [wait n later]
        rfl
  obtain ⟨received, last⟩ := heard_since run since
  obtain ⟨route, found⟩ := Option.isSome_iff_exists.mp (received.symm.trans flag)
  have kept : w.ctrl.lastRoute = some route := last route found
  obtain ⟨n, member, own⟩ := List.exists_of_findSome?_eq_some found
  exact ⟨_, since, n, member, by rw [kept]; exact own⟩

/-- What the pickup leg's end banked is still held while the trip leg is queried. -/
theorem held_pickup {ended : Moment (World R κ) (Input R κ) (Output R κ)}
    {before : History (World R κ) (Input R κ) (Output R κ)} (run : Runs (machine D T) past w)
    (ends : PickupEnd ended before past) :
    ∃ held, w.ctrl.pickupRoute = some held ∧ held.route = ended.pre.ctrl.lastRoute.getD ⟨[]⟩ := by
  obtain ⟨trip, e, rfl, ticks, all⟩ := ends
  refine (run.segment (I := fun _ w => (querying w.ctrl.status.state = true ∧ w.ctrl.currentLeg = .Trip) ∧
    ∃ held, w.ctrl.pickupRoute = some held ∧ held.route = ended.pre.ctrl.lastRoute.getD ⟨[]⟩) ?_ ?_ all).2
  · obtain ⟨_, at_end⟩ := run.suffix
    obtain ⟨leg, banked⟩ := carries_endPickup (step_carries at_end.inv.2.1) ticks.prev ticks.next
    exact ⟨⟨by rw [ticks.next]; rfl, leg⟩, banked⟩
  · intro newer n earlier ⟨⟨query, leg⟩, held, banked, route⟩ stepped still
    have kept := carries_tripLeg (step_carries stepped) query leg still.1
    exact ⟨still, held, kept.trans banked, route⟩

/-- In every run a query that succeeds holds its own routes exactly where the
    flag was up. -/
theorem own_routes_iff (run : Runs (machine D T) past w) : Along OwnRoutesIff past := by
  refine run.along fun past w i os w' earlier stepped ⟨other, ready⟩ => ?_
  obtain ⟨state, leg, pickup, trip⟩ := carries_ready (step_carries stepped) other ready
  constructor
  · rintro ⟨⟨held, _, ended, before, ends, own⟩, _, _, ownTrip⟩
    refine ⟨⟨ended, before, ends, ?_⟩, flag_of_ownRoute earlier ownTrip⟩
    obtain ⟨newer, e, rfl, _⟩ := ends
    obtain ⟨_, at_end⟩ := earlier.suffix
    exact flag_of_ownRoute at_end.inv.1 own
  · rintro ⟨⟨ended, before, ends, flag⟩, flagTrip⟩
    obtain ⟨held, banked, route⟩ := held_pickup earlier ends
    obtain ⟨heldTrip, stored, routeTrip⟩ := trip
    refine ⟨⟨held, pickup.trans banked, ended, before, ends, ?_⟩, heldTrip, stored, ?_⟩
    · obtain ⟨newer, e, rfl, ticks, _⟩ := ends
      obtain ⟨_, at_end⟩ := earlier.suffix
      have own := ownRoute_of_flag at_end.inv.1 ticks.prev flag
      rw [ticks.leg] at own
      rw [route]
      exact own
    · have own := ownRoute_of_flag earlier state flagTrip
      rw [show w.ctrl.currentLeg = .Trip from leg] at own
      rw [routeTrip]
      exact own

end

section
attribute [local instance] streetMath

/-- A leg of a query on the street with a route between its goal and its end. -/
def routedLeg (segments : List Int64) (distanceM timeSeconds : ℚ) : List (Operation ℚ Unit) :=
  [.Tick, .Tick, .Tick, .Route ⟨segments⟩, .RouteState .Set, .Tick, .Eta distanceM timeSeconds, .Tick]

/-- A query from the first lane to the second, whose legs are given. -/
def queryOnStreet (legs : List (Operation ℚ Unit)) : List (Input ℚ Unit) :=
  eachSecond 0 ([.LocState .Initialized,
    .QueryEta ⟨35 + 688 / 1000, 139 + 69060 / 100000⟩ ⟨35 + 688 / 1000, 139 + 69190 / 100000⟩ (some ())] ++ legs)

/-- A query on the street that receives a route on each of its legs. -/
theorem own_routes_iff_on_street : ∃ past w, Runs (machine street {} : Machine (World ℚ Unit) _ _ _) past w ∧
    (w.ctrl.status.state = .RoutesReady ∧ w.ctrl.pickupRoute.map HeldRoute.route = some ⟨[1]⟩ ∧
      w.ctrl.tripRoute.map HeldRoute.route = some ⟨[1, 2]⟩) ∧ Along OwnRoutesIff past := by
  obtain ⟨past, w, run, quoted⟩ := exists_run (M := machine street {}) (s := initialWorld .fresh 0)
    (queryOnStreet (routedLeg [1] 50 6 ++ routedLeg [1, 2] 90 12)) fresh_starts
    (fun _ w => decide (w.ctrl.status.state = .RoutesReady ∧ w.ctrl.pickupRoute.map HeldRoute.route = some ⟨[1]⟩ ∧
      w.ctrl.tripRoute.map HeldRoute.route = some ⟨[1, 2]⟩)) (by decide +kernel)
  exact ⟨past, w, run, by simpa using quoted, own_routes_iff run⟩

/-- The route of the trip leg comes late: the route of the pickup leg is banked for both. -/
theorem late_route_missed : ∃ past m w, Runs (machine street {} : Machine (World ℚ Unit) _ _ _) (m :: past) w ∧
    (Succeeds m ∧ w.ctrl.tripRoute.map HeldRoute.route = some ⟨[1]⟩) ∧ ¬ OwnRoutes past m := by
  obtain ⟨newer, m, past, w, run, test⟩ := exists_run_at (M := machine street {}) (s := initialWorld .fresh 0)
    (queryOnStreet (routedLeg [1] 50 6 ++ legOnStreet 90 12)) fresh_starts 0
    (fun newer m _ w => decide (newer = [] ∧ m.pre.ctrl.routeReceived = false ∧ (m.pre.ctrl.status.state ≠ .RoutesReady ∧
      m.post.ctrl.status.state = .RoutesReady) ∧ w.ctrl.tripRoute.map HeldRoute.route = some ⟨[1]⟩))
    (by decide +kernel)
  simp only [decide_eq_true_eq] at test
  obtain ⟨rfl, down, success, banked⟩ := test
  refine ⟨past, m, w, run, ⟨success, banked⟩, fun own => ?_⟩
  obtain ⟨_, _, _, ownTrip⟩ := own
  have flag := flag_of_ownRoute run.inv.1 ownTrip
  rw [down] at flag
  cases flag

end
end AutowareAgent.BankedRoutes
