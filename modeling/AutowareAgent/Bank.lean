import AutowareAgent.Queries

/-!
The route bank. Which routes are held, whether a query is under way and whether
a callback waits are all told by the state and the leg, so `startTrip` accepts
in one state only, and nothing but a cancel lets it accept again.
-/
namespace AutowareAgent.Bank
open AutowareAgent.Machines AutowareAgent.Lanes AutowareAgent.Trips AutowareAgent.TripSteps AutowareAgent.Strand
open AutowareAgent.Quotes AutowareAgent.Queries

/-- The states before the first query is accepted. -/
def empty : TripState → Bool
  | .Idle | .InitializingInMap => true
  | _ => false

section
variable {R κ : Type}

/-- The route bank, the query flags and the state agree. -/
structure Agrees (c : TripController R κ) : Prop where
  pickup : c.pickupRoute.isSome = true ↔
    ¬(empty c.status.state = true ∨ querying c.status.state = true ∧ c.currentLeg = .Pickup)
  trip : c.tripRoute.isSome = true ↔ ¬(empty c.status.state = true ∨ querying c.status.state = true)
  asking : c.querying = true ↔ querying c.status.state = true
  callback : c.queryCb.isSome = true → querying c.status.state = true

/-- A `startTrip` that returns true. -/
def accepts (m : Moment (World R κ) (Input R κ) (Output R κ)) : Prop :=
  (∃ e, m.input = .Handle e .StartTrip) ∧ .Returned true ∈ m.outputs

/-- A cancel is handled. -/
def cancels (m : Moment (World R κ) (Input R κ) (Output R κ)) : Bool :=
  match m.input with
  | .Handle _ .Cancel => true
  | _ => false

/-- Since the last cancel no trip was accepted. -/
def OnlyTrip (past : History (World R κ) (Input R κ) (Output R κ))
    (m : Moment (World R κ) (Input R κ) (Output R κ)) : Prop :=
  accepts m → ∀ n ∈ since cancels past, ¬ accepts n

/-! ### The bank as the pipeline has it -/

/-- The fields of the pipeline agree. -/
structure Accounted (p : Pipeline R κ) : Prop where
  pickup : p.pickupHeld = !(empty p.state || querying p.state && p.leg = .Pickup)
  trip : p.tripHeld = !(empty p.state || querying p.state)
  asking : p.asking = querying p.state
  callback : querying p.state = false → p.cb = none

theorem accounted_closed {p p' : Pipeline R κ} (closed : Closed p p') : Accounted p' := by
  obtain ⟨state, _, asking, cb, pickup, trip⟩ := closed
  exact ⟨by rw [pickup, state]; rfl, by rw [trip, state]; rfl, by rw [asking, state]; rfl, fun _ => cb⟩

/-- On the way both routes are held and nobody waits. -/
theorem accounted_driving {p p' : Pipeline R κ} (accounted : Accounted p) (way : driving p.state = true)
    (next : driving p'.state = true) (same : p'.pickupHeld = p.pickupHeld ∧ p'.tripHeld = p.tripHeld ∧
      p'.asking = p.asking ∧ p'.cb = p.cb) : Accounted p' := by
  have filled : ∀ {s}, driving s = true → empty s = false := by
    intro s way
    cases s <;> first | rfl | cases way
  obtain ⟨pickup, trip, asking, cb⟩ := same
  refine ⟨?_, ?_, ?_, fun _ => cb.trans (accounted.callback (querying_of_driving way))⟩
  · simp [pickup, accounted.pickup, filled way, filled next, querying_of_driving way, querying_of_driving next]
  · rw [trip, accounted.trip, filled way, filled next, querying_of_driving way, querying_of_driving next]
  · rw [asking, accounted.asking, querying_of_driving way, querying_of_driving next]

/-- The pipeline within a query. -/
theorem accounted_querying {p p' : Pipeline R κ} (accounted : Accounted p) (state : querying p.state = true)
    (next : querying p'.state = true) (same : p'.pickupHeld = p.pickupHeld ∧ p'.tripHeld = p.tripHeld ∧
      p'.asking = p.asking ∧ p'.leg = p.leg) : Accounted p' := by
  have filled : ∀ {s}, querying s = true → empty s = false := by
    intro s state
    cases s <;> first | rfl | cases state
  obtain ⟨pickup, trip, asking, leg⟩ := same
  refine ⟨?_, ?_, ?_, fun quiet => ?_⟩
  · rw [pickup, accounted.pickup, filled state, filled next, state, next, leg]
  · rw [trip, accounted.trip, filled state, filled next, state, next]
  · rw [asking, accounted.asking, state, next]
  · rw [next] at quiet
    cases quiet

end

section
variable {R κ : Type} [Zero R] [Add R] [Sub R] [Mul R] [NatCast R] [LT R] [DecidableLT R] [CMath R]
variable {D : MapData R} {T : TripTimings} {i : Input R κ} {p p' : Pipeline R κ} {told : List (Notice R κ)}

/-- Every step of the pipeline keeps the account. -/
theorem accounted_progress (accounted : Accounted p) (moved : Progress D T i p told p') : Accounted p' := by
  cases moved with
  | quiet _ _ | awaitLocalisation _ _ _ | awaitRoute _ _ _ | awaitEta _ _ _ | refuse _ => exact accounted
  | locState _ | routeState _ | eta _ _ _ | refuseTrip _ =>
    exact ⟨accounted.pickup, accounted.trip, accounted.asking, accounted.callback⟩
  | cancel closed | failOpen _ closed _ | fail _ closed _ => exact accounted_closed closed
  | initialised state _ =>
    obtain ⟨pickup, trip, asking, callback⟩ := accounted
    rw [state] at pickup trip asking callback
    exact ⟨pickup, trip, asking, callback⟩
  | openQuery fromLane toLane _ => exact ⟨rfl, rfl, rfl, (by rintro ⟨⟩)⟩
  | publishPose state | localised state _ | publishGoal state | routeSet state _ =>
    exact accounted_querying accounted (by simp [state, querying]) rfl ⟨rfl, rfl, rfl, rfl⟩
  | endPickup d t pickup goal state _ _ _ _ =>
    obtain ⟨_, trip, asking, _⟩ := accounted
    rw [state] at trip asking
    exact ⟨rfl, trip, asking, (by rintro ⟨⟩)⟩
  | endTrip d t state leg _ =>
    have pickup := accounted.pickup
    rw [state, leg] at pickup
    exact ⟨pickup, rfl, rfl, fun _ => rfl⟩
  | acceptTrip pickup ready =>
    obtain ⟨pickup, trip, asking, callback⟩ := accounted
    rw [ready] at pickup trip asking callback
    exact ⟨pickup, trip, asking, callback⟩
  | drive now s route goalId _ way next _ _ _ => exact accounted_driving accounted way next ⟨rfl, rfl, rfl, rfl⟩

/-- An accepted trip stays under way until it is cancelled. -/
theorem driving_progress (way : driving p.state = true) (moved : Progress D T i p told p')
    (kept : ∀ e, i ≠ .Handle e .Cancel) : driving p'.state = true := by
  cases moved with
  | quiet _ _ | awaitLocalisation _ _ _ | awaitRoute _ _ _ | awaitEta _ _ _ | refuse _ => exact way
  | locState s | routeState s | eta d t _ | refuseTrip _ => exact way
  | cancel _ => exact absurd rfl (kept _)
  | acceptTrip _ _ => rfl
  | drive _ _ _ _ _ _ next _ _ _ => exact next
  | failOpen state _ _ | openQuery _ _ state => rw [state] at way; cases way
  | initialised state _ | publishPose state | localised state _ | publishGoal state | routeSet state _ =>
    rw [state] at way
    cases way
  | endPickup _ _ _ _ state _ _ _ _ | endTrip _ _ state _ _ => rw [state] at way; cases way
  | fail fails _ _ =>
    rcases fails with ⟨state, _⟩ | ⟨state, _⟩ | ⟨state, _⟩ <;> rw [state] at way <;> cases way

/-- `startTrip` is accepted where the routes are ready, and leads to the drive. -/
theorem accepted_progress {e : Env R} (moved : Progress D T (.Handle e .StartTrip) p told p')
    (accepted : .Returned true ∈ told) : p.state = .RoutesReady ∧ driving p'.state = true := by
  cases moved with
  | quiet calm _ => exact absurd calm id
  | refuseTrip _ => simp at accepted
  | acceptTrip _ ready => exact ⟨ready, rfl⟩
  | drive _ _ _ _ drives _ _ _ _ _ => exact absurd drives id

end

/-! ### Runs -/

section
variable {R κ : Type} [Zero R] [Add R] [Sub R] [Mul R] [Div R] [NatCast R] [LT R] [DecidableLT R] [CMath R]
variable {D : MapData R} {T : TripTimings} {past : History (World R κ) (Input R κ) (Output R κ)} {w : World R κ}

theorem accounted_run (run : Runs (machine D T) past w) : Accounted (pipelineOf w.ctrl) := by
  refine run.invariant (I := fun _ w => Accounted (pipelineOf w.ctrl)) ?_ ?_
  · rintro _ ⟨m, now, _, rfl⟩
    simp only [initialWorld, TripController.initializeInMap]
    split <;> exact ⟨rfl, rfl, rfl, fun _ => rfl⟩
  · intro past w i os w' earlier accounted stepped
    exact accounted_progress accounted (step_progress earlier stepped)

omit [Zero R] [Add R] [Sub R] [Mul R] [Div R] [NatCast R] [LT R] [DecidableLT R] [CMath R] in
theorem agrees_of_accounted {c : TripController R κ} (accounted : Accounted (pipelineOf c)) : Agrees c := by
  have pickup : c.pickupRoute.isSome =
      !(empty c.status.state || querying c.status.state && c.currentLeg = .Pickup) := accounted.pickup
  have trip : c.tripRoute.isSome = !(empty c.status.state || querying c.status.state) := accounted.trip
  have asking : c.querying = querying c.status.state := accounted.asking
  refine ⟨?_, by simp [trip], by rw [asking], fun waits => ?_⟩
  · rw [pickup]
    cases empty c.status.state <;> cases querying c.status.state <;> simp
  · by_contra quiet
    have none : c.queryCb = none := accounted.callback (Bool.eq_false_iff.mpr quiet)
    rw [none] at waits
    cases waits

/-- `startTrip` returns true where the routes are ready, and refuses everywhere else. -/
theorem startTrip_returns (run : Runs (machine D T) past w) (now : Int) :
    ∃ c, w.ctrl.startTrip D now = .ok (c, decide (w.ctrl.status.state = .RoutesReady)) := by
  have booked := booked_run run
  by_cases ready : w.ctrl.status.state = .RoutesReady
  · obtain ⟨pickup, _, route, _, started⟩ := startTrip_booked now booked ready
    exact ⟨_, by rw [started, decide_eq_true ready]⟩
  · rw [decide_eq_false ready]
    by_cases idle : w.ctrl.status.state = .Idle
    · obtain ⟨noPickup, noTrip⟩ := booked_idle booked idle
      refine ⟨{ w.ctrl with engagingForPickup := true, currentRouteState := none }, ?_⟩
      simp only [TripController.startTrip, noPickup, noTrip]
    · unfold TripController.startTrip
      dsimp only
      split
      · exact ⟨_, by rw [if_pos ⟨ready, idle⟩]⟩
      · exact ⟨_, rfl⟩

/-- A trip that was accepted is under way until a cancel. -/
theorem accepted_driving {newer older : History (World R κ) (Input R κ) (Output R κ)}
    {n : Moment (World R κ) (Input R κ) (Output R κ)} (run : Runs (machine D T) (newer ++ n :: older) w)
    (accepted : accepts n) (kept : ∀ k ∈ newer, cancels k = false) : driving w.ctrl.status.state = true := by
  refine run.segment (C := fun k => cancels k = false) (I := fun _ w => driving w.ctrl.status.state = true) ?_ ?_ kept
  · obtain ⟨_, at_start⟩ := run.suffix
    obtain ⟨earlier, stepped, _⟩ := at_start.inv
    obtain ⟨⟨e, asked⟩, returned⟩ := accepted
    rw [asked] at stepped
    exact (accepted_progress (step_progress earlier stepped) (mem_notices returned rfl)).2
  · intro newer k earlier way stepped other
    refine driving_progress way (step_progress earlier stepped) fun e cancelled => ?_
    simp [cancels, cancelled] at other

/-- In every run the bank agrees with the state, `startTrip` returns true
    exactly where the routes are ready, and once only between two cancels. -/
theorem bank_agrees (run : Runs (machine D T) past w) :
    Agrees w.ctrl ∧ (∀ now, ∃ c, w.ctrl.startTrip D now = .ok (c, decide (w.ctrl.status.state = .RoutesReady))) ∧
      Along OnlyTrip past := by
  refine ⟨agrees_of_accounted (accounted_run run), startTrip_returns run, ?_⟩
  refine run.along fun past w i os w' earlier stepped accepted n member before => ?_
  obtain ⟨⟨e, asked⟩, returned⟩ := accepted
  obtain rfl : i = .Handle e .StartTrip := asked
  obtain ⟨ready, _⟩ := accepted_progress (step_progress earlier stepped) (mem_notices returned rfl)
  obtain ⟨newer, older, rfl, kept⟩ := since_mem member
  have way := accepted_driving earlier before kept
  rw [show w.ctrl.status.state = _ from ready] at way
  cases way

end

section
attribute [local instance] streetMath

/-- A trip that is accepted on the street: the same command again is refused. -/
theorem bank_agrees_on_street : ∃ past w, Runs (machine street {} : Machine (World ℚ Unit) _ _ _) past w ∧
    w.ctrl.status.state = .WaitingForPickupStart ∧ Agrees w.ctrl ∧
    (∀ now, ∃ c, w.ctrl.startTrip street now = .ok (c, decide (w.ctrl.status.state = .RoutesReady))) ∧
    Along OnlyTrip past := by
  obtain ⟨past, w, run, accepted⟩ := exists_run (M := machine street {}) (s := initialWorld .fresh 0)
    (quoteOnStreet (some ()) ++ eachSecond 16 [.StartTrip, .StartTrip]) fresh_starts
    (fun _ w => decide (w.ctrl.status.state = .WaitingForPickupStart)) (by decide +kernel)
  exact ⟨past, w, run, by simpa using accepted, bank_agrees run⟩

end
end AutowareAgent.Bank
