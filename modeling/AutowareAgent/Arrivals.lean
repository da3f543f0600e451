import AutowareAgent.Automaton

/-!
The route states that a leg goes by. An arrival belongs to its leg when the
`ARRIVED` was delivered after the leg's goal was published, and an engagement
to its leg when a `SET` was. On the trip leg the stored route state is cleared
where the goal is published, on the pickup leg some ticks before; no engagement
waits for a `SET`.
-/
namespace AutowareAgent.Arrivals
open AutowareAgent.Machines AutowareAgent.Lanes AutowareAgent.LaneCache AutowareAgent.Trips AutowareAgent.Strand
open AutowareAgent.Automaton

/-- The state in which the goal of a leg is published. -/
def goalState : QueryLeg → TripState
  | .Pickup => .WaitingLocalisation
  | .Trip => .WaitingForMove

/-- The state in which a leg is driven, and the one that follows its arrival. -/
def drivingState : QueryLeg → TripState × TripState
  | .Pickup => (.DrivingToPickup, .WaitingForMove)
  | .Trip => (.Running, .Completed)

section
variable {R κ : Type}

/-- The goal of the leg is published. -/
def publishes (leg : QueryLeg) (m : Moment (World R κ) (Input R κ) (Output R κ)) : Bool :=
  decide (.GoalAt (goalState leg) ∈ signals m.outputs)

/-- The route state that is delivered. -/
def delivered (m : Moment (World R κ) (Input R κ) (Output R κ)) : Option RouteState :=
  match eventOf m.pre m.input with
  | .RouteState state => some state
  | _ => none

/-- The route state that was delivered last. -/
def lastDelivered (past : History (World R κ) (Input R κ) (Output R κ)) : Option RouteState :=
  past.findSome? delivered

/-- The goal of the leg has been published, and the last route state since is `ARRIVED`. -/
def ArrivedSince (leg : QueryLeg) (past : History (World R κ) (Input R κ) (Output R κ)) : Prop :=
  (∃ m ∈ past, publishes leg m = true) ∧ lastDelivered (since (publishes leg) past) = some .Arrived

/-- A tick that leaves the driving state of a leg for the state after it acts
    on an `ARRIVED` that was delivered after the goal of the leg. -/
def OwnArrival (past : History (World R κ) (Input R κ) (Output R κ))
    (m : Moment (World R κ) (Input R κ) (Output R κ)) : Prop :=
  ∀ leg, eventOf m.pre m.input = .Tick → m.pre.ctrl.status.state = (drivingState leg).1 →
    m.post.ctrl.status.state = (drivingState leg).2 → ArrivedSince leg past

/-- A tick publishes the goal of the pickup leg over a stored `ARRIVED`. -/
def Stale (m : Moment (World R κ) (Input R κ) (Output R κ)) : Prop :=
  eventOf m.pre m.input = .Tick ∧ m.pre.ctrl.status.state = .WaitingLocalisation ∧ m.pre.ctrl.localised = true ∧
    m.pre.ctrl.currentRouteState = some .Arrived

instance (m : Moment (World R κ) (Input R κ) (Output R κ)) : Decidable (Stale m) :=
  inferInstanceAs (Decidable (_ ∧ _ ∧ _ ∧ _))

/-! ### The stored route state -/

/-- A stored `ARRIVED` is the leg's own. -/
def Fresh (leg : QueryLeg) (past : History (World R κ) (Input R κ) (Output R κ)) (route : Option RouteState) : Prop :=
  (∃ m ∈ past, publishes leg m = true) ∧
    (route = some .Arrived → lastDelivered (since (publishes leg) past) = some .Arrived)

section
variable {leg : QueryLeg} {past : History (World R κ) (Input R κ) (Output R κ)}
variable {m : Moment (World R κ) (Input R κ) (Output R κ)} {route route' : Option RouteState}

theorem fresh_published (published : publishes leg m = true) (other : route ≠ some .Arrived) :
    Fresh leg (m :: past) route :=
  ⟨⟨m, List.mem_cons_self, published⟩, fun stored => absurd stored other⟩

theorem fresh_delivered (fresh : Fresh leg past route) (other : publishes leg m = false) {state : RouteState}
    (heard : delivered m = some state) : Fresh leg (m :: past) (some state) := by
  obtain ⟨⟨g, member, published⟩, _⟩ := fresh
  refine ⟨⟨g, List.mem_cons_of_mem _ member, published⟩, fun stored => ?_⟩
  rw [since_cons_other other]
  simp [lastDelivered, heard, Option.some.inj stored]

theorem fresh_keep (fresh : Fresh leg past route) (other : publishes leg m = false) (silent : delivered m = none)
    (same : route' = route ∨ route' = none) : Fresh leg (m :: past) route' := by
  obtain ⟨⟨g, member, published⟩, own⟩ := fresh
  refine ⟨⟨g, List.mem_cons_of_mem _ member, published⟩, fun stored => ?_⟩
  rw [since_cons_other other]
  rcases same with rfl | rfl
  · simpa [lastDelivered, silent] using own stored
  · cases stored

end

/-- What the stored route state is worth in a phase. -/
structure Believable (past : History (World R κ) (Input R κ) (Output R κ)) (p : Phase) : Prop where
  flag : p.state = .WaitingForPickupStart ∨ p.state = .PublishingInitialPose ∨ p.state = .WaitingLocalisation →
    p.forPickup = true
  pickup : p.state = .Engaging ∨ p.state = .DrivingToPickup ∨ p.state = .WaitingForMove → Fresh .Pickup past p.route
  trip : p.state = .Engaging ∧ p.forPickup = false ∨ p.state = .Running → Fresh .Trip past p.route

theorem believable_planning {past : History (World R κ) (Input R κ) (Output R κ)} {p : Phase}
    (before : planning p.state = true) : Believable past p := by
  refine ⟨?_, ?_, ?_⟩
  · rintro (state | state | state) <;> rw [state] at before <;> cases before
  · rintro (state | state | state) <;> rw [state] at before <;> cases before
  · rintro (⟨state, _⟩ | state) <;> rw [state] at before <;> cases before

/-- A move within a state, on which no goal is published and no route state is delivered. -/
theorem believable_keep {past : History (World R κ) (Input R κ) (Output R κ)}
    {m : Moment (World R κ) (Input R κ) (Output R κ)} {p p' : Phase} (believable : Believable past p)
    (other : ∀ leg, publishes leg m = false) (silent : delivered m = none) (state : p'.state = p.state)
    (flag : p'.forPickup = p.forPickup ∨ p'.forPickup = true) (route : p'.route = p.route ∨ p'.route = none) :
    Believable (m :: past) p' := by
  refine ⟨fun early => ?_, fun way => ?_, fun way => ?_⟩
  · rw [state] at early
    rcases flag with same | up
    · exact same.trans (believable.flag early)
    · exact up
  · rw [state] at way
    exact fresh_keep (believable.pickup way) (other _) silent route
  · rw [state] at way
    refine fresh_keep (believable.trip ?_) (other _) silent route
    rcases way with ⟨engaging, down⟩ | running
    · rcases flag with same | up
      · exact .inl ⟨engaging, same.symm.trans down⟩
      · rw [up] at down
        cases down
    · exact .inr running

/-- Every move keeps the stored route state believable, if no goal of a pickup
    leg is published over a stored `ARRIVED`. -/
theorem believable_advance {past : History (World R κ) (Input R κ) (Output R κ)}
    {m : Moment (World R κ) (Input R κ) (Output R κ)} {p p' : Phase} (believable : Believable past p)
    (moved : Advance (eventOf m.pre m.input) p (signals m.outputs) p')
    (clear : publishes .Pickup m = true → p.route ≠ some .Arrived) : Believable (m :: past) p' := by
  have goal : ∀ leg, publishes leg m = decide (.GoalAt (goalState leg) ∈ signals m.outputs) := fun _ => rfl
  have heard : ∀ state, eventOf m.pre m.input = .RouteState state → delivered m = some state := by
    intro state event
    simp only [delivered, event]
  have silent : (∀ state, eventOf m.pre m.input ≠ .RouteState state) → delivered m = none := by
    intro event
    unfold delivered
    split
    · rename_i state own
      exact absurd own (event state)
    · rfl
  generalize eventOf m.pre m.input = ev at moved heard silent
  generalize signals m.outputs = sigs at moved goal
  have other : (∀ state, .GoalAt state ∉ sigs) → ∀ leg, publishes leg m = false := by
    intro none leg
    rw [goal leg]
    exact decide_eq_false (none _)
  cases moved with
  | plan _ _ after _ _ => exact believable_planning after
  | cancel => exact believable_planning rfl
  | quiet | message | requestMode _ | modeChanged | late _ =>
    exact believable_keep believable (other (by simp)) (silent (by simp)) rfl (.inl rfl) (.inl rfl)
  | refuse asked =>
    refine believable_keep believable (other (by simp)) (silent ?_) rfl (.inl rfl) (.inl rfl)
    rintro state rfl
    simp at asked
  | refuseTrip => exact believable_keep believable (other (by simp)) (silent (by simp)) rfl (.inr rfl) (.inr rfl)
  | routeState s =>
    have goals := other (by simp)
    exact ⟨believable.flag, fun way => fresh_delivered (believable.pickup way) (goals _) (heard s rfl),
      fun way => fresh_delivered (believable.trip way) (goals _) (heard s rfl)⟩
  | acceptTrip _ _ => exact ⟨fun _ => rfl, by simp, by simp⟩
  | failTrip _ _ => exact ⟨fun _ => rfl, by simp, by simp⟩
  | failMove _ _ => exact ⟨by simp, by simp, by simp⟩
  | arriveDropoff _ _ => exact ⟨by simp, by simp, by simp⟩
  | goToPickup _ waiting => exact ⟨fun _ => believable.flag (.inl waiting), by simp, by simp⟩
  | publishPose publishing => exact ⟨fun _ => believable.flag (.inr (.inl publishing)), by simp, by simp⟩
  | publishGoal localised =>
    have published : publishes .Pickup m = true := by simp [goal, goalState]
    refine ⟨by simp, fun _ => fresh_published published (clear published), ?_⟩
    simp [believable.flag (.inr (.inr localised))]
  | arrivePickup driving _ =>
    refine ⟨by simp, fun _ => ?_, by simp⟩
    exact fresh_keep (believable.pickup (.inr (.inl driving))) (other (by simp) _) (silent (by simp)) (.inr rfl)
  | move asked waiting =>
    have published : publishes .Trip m = true := by simp [goal, goalState]
    have pickup : publishes .Pickup m = false := by simp [goal, goalState]
    refine ⟨by simp, fun _ => ?_, fun _ => fresh_published published (by simp)⟩
    refine fresh_keep (believable.pickup (.inr (.inr waiting))) pickup (silent ?_) (.inr rfl)
    rcases asked with rfl | rfl <;> simp
  | engagePickup engaging _ =>
    refine ⟨by simp, fun _ => ?_, by simp⟩
    exact fresh_keep (believable.pickup (.inl engaging)) (other (by simp) _) (silent (by simp)) (.inl rfl)
  | engageTrip engaging down =>
    refine ⟨by simp, by simp, fun _ => ?_⟩
    exact fresh_keep (believable.trip (.inl ⟨engaging, down⟩)) (other (by simp) _) (silent (by simp)) (.inl rfl)

end

/-- A tick that ends a drive acts on a stored `ARRIVED`. -/
theorem advance_arrives {p p' : Phase} {sigs : List Signal} (leg : QueryLeg) (moved : Advance .Tick p sigs p')
    (before : p.state = (drivingState leg).1) (after : p'.state = (drivingState leg).2) : p.route = some .Arrived := by
  cases moved with
  | arrivePickup _ arrived | arriveDropoff _ arrived => exact arrived
  | plan _ planned _ _ _ => cases leg <;> rw [before] at planned <;> cases planned
  | refuse asked => simp at asked
  | publishPose state | publishGoal state => cases leg <;> simp [state, drivingState] at before
  | goToPickup asked _ | failMove asked _ | move asked _ => simp at asked
  | quiet | requestMode _ =>
    rw [before] at after
    cases leg <;> cases after

/-! ### Arrivals in runs -/

section
variable {R κ : Type} [Zero R] [Add R] [Sub R] [Mul R] [Div R] [NatCast R] [LT R] [DecidableLT R] [CMath R]
variable {D : MapData R} {T : TripTimings} {past : History (World R κ) (Input R κ) (Output R κ)} {w : World R κ}

/-- The goal of a pickup leg is published once the vehicle is localised. -/
theorem pickupGoal_localised {w' : World R κ} {i : Input R κ} {os : List (Output R κ)}
    (run : Runs (machine D T) past w) (stepped : step D T w i = .ok (w', os))
    (goal : .GoalAt .WaitingLocalisation ∈ signals os) :
    eventOf w i = .Tick ∧ w.ctrl.status.state = .WaitingLocalisation ∧ w.ctrl.localised = true := by
  obtain ⟨event, state⟩ := advance_pickupGoal (step_advance run stepped) goal
  refine ⟨event, state, ?_⟩
  obtain ⟨e, rfl⟩ := eventOf_tick event
  obtain ⟨c, ticked, rfl, _⟩ := handle_cases stepped
  change w.ctrl.tick D T e = .ok c at ticked
  simp only [TripController.tick, show w.ctrl.status.state = _ from state, Except.ok.injEq] at ticked
  subst ticked
  by_contra away
  rw [TripController.tickWaitingLocalisation, if_pos (by simpa using away), signals_republish, out_nil run] at goal
  cases goal

/-- Along such a run the stored route state is believable. -/
theorem believable_run (run : Runs (machine D T) past w) (clear : Along (fun _ m => ¬ Stale m) past) :
    Believable past (phaseOf w.ctrl) := by
  refine run.invariant_along (I := fun past w => Believable past (phaseOf w.ctrl)) ?_ ?_ clear
  · rintro _ ⟨m, now, _, rfl⟩
    refine believable_planning ?_
    rcases phaseOf_initial (κ := κ) m now with phase | phase <;> rw [phase] <;> rfl
  · intro past w i os w' earlier believable stepped fresh
    refine believable_advance believable (step_advance earlier stepped) fun published stored => ?_
    obtain ⟨event, state, localised⟩ := pickupGoal_localised earlier stepped (of_decide_eq_true published)
    exact fresh ⟨event, state, localised, stored⟩

/-- In every run in which no goal of a pickup leg is published over a stored
    `ARRIVED`, every arrival belongs to its leg. -/
theorem own_arrivals (run : Runs (machine D T) past w) (clear : ∀ m ∈ past, ¬ Stale m) : Along OwnArrival past := by
  refine run.along_of_along (C := fun _ m => ¬ Stale m) ?_ (along_forall.mpr clear)
  intro past w i os w' earlier clear stepped _ leg event before after
  have moved := step_advance earlier stepped
  have believable := believable_run earlier clear
  rw [show eventOf w i = .Tick from event] at moved
  have arrived := advance_arrives leg moved before after
  have fresh : Fresh leg past (phaseOf w.ctrl).route := by
    cases leg with
    | Pickup => exact believable.pickup (.inr (.inl before))
    | Trip => exact believable.trip (.inr before)
  exact ⟨fresh.1, fresh.2 arrived⟩

end

section
attribute [local instance] streetMath

/-- A whole trip on the street. -/
theorem own_arrivals_on_street : ∃ past w, Runs (machine street {} : Machine (World ℚ Unit) _ _ _) past w ∧
    w.ctrl.status.state = .Completed ∧ Along OwnArrival past := by
  obtain ⟨past, w, run, done⟩ := exists_run (M := machine street {}) (s := initialWorld .fresh 0)
    (tripOnStreet (some ()) ++ pickupOnStreet ++ engagedOnStreet 27 1 ++
      eachSecond 28 [.RouteState .Arrived, .Tick]) fresh_starts
    (fun past w => decide (w.ctrl.status.state = .Completed) && past.all (fun m => !decide (Stale m)))
    (by decide +kernel)
  simp only [Bool.and_eq_true, decide_eq_true_eq, List.all_eq_true, Bool.not_eq_true',
    decide_eq_false_iff_not] at done
  exact ⟨past, w, run, done.1, own_arrivals run done.2⟩

/-- The arrival of the drive before is delivered after `goToPickup`: the vehicle
    has not moved when it is said to have arrived at the pickup. -/
theorem arrival_of_earlier_drive : ∃ past w, Runs (machine street {} : Machine (World ℚ Unit) _ _ _) past w ∧
    ¬ Along OwnArrival past := by
  obtain ⟨past, w, run, early⟩ := exists_run (M := machine street {}) (s := initialWorld .fresh 0)
    (quoteOnStreet (some ()) ++
      eachSecond 16 [.StartTrip, .GoToPickup, .RouteState .Arrived, .Tick, .Tick, .Tick] ++
      engagedOnStreet 22 0 ++ eachSecond 23 [.Tick]) fresh_starts
    (fun past _ => match past with
      | m :: older => decide (eventOf m.pre m.input = .Tick ∧ m.pre.ctrl.status.state = .DrivingToPickup ∧
          m.post.ctrl.status.state = .WaitingForMove ∧ lastDelivered (since (publishes .Pickup) older) = none)
      | [] => false)
    (by decide +kernel)
  refine ⟨past, w, run, fun own => ?_⟩
  cases past with
  | nil => cases early
  | cons m older =>
    obtain ⟨tick, before, after, nothing⟩ := of_decide_eq_true early
    have heard := (own.1 .Pickup tick before after).2
    rw [nothing] at heard
    cases heard

end
end AutowareAgent.Arrivals
