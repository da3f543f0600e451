import AutowareAgent.QuotedTrips

/-!
The way back to a state in which a query is accepted. Until a trip is quoted the
waits of the query run out, and the controller is idle again. From the quote on
only a cancel leads back: the quote is read off the trip leg, and the states
that follow it lead to each other, the last of them nowhere.
-/
namespace AutowareAgent.NextTrip
open AutowareAgent.Machines AutowareAgent.Lanes AutowareAgent.Trips AutowareAgent.Strand AutowareAgent.Quotes
open AutowareAgent.Queries AutowareAgent.QuotedTrips

/-- The states before a trip is quoted. The trip leg has been, once its ETA is read. -/
def unquoted (leg : QueryLeg) : TripState → Bool
  | .Idle | .InitializingInMap | .QueryPublishingInitialPose | .QueryWaitingLocalisation | .QueryPublishingGoal
  | .QueryWaitingRoute => true
  | .QueryReadingEta => leg = .Pickup
  | _ => false

section
variable {R κ : Type}

/-- An input other than a cancel. -/
def Commits : Input R κ → Prop
  | .Handle _ .Cancel => False
  | _ => True

/-- The clock at which an input is handled. -/
def clockOf : Input R κ → Option Int
  | .Handle e _ | .Acknowledge e _ => some e.now
  | .ModeResponse _ _ | .EngageResponse _ _ => none

/-- The clock does not run backwards. -/
def Timely (start : Int) (inputs : List (Input R κ)) : Prop :=
  (start :: inputs.filterMap clockOf).Pairwise (· ≤ ·)

theorem timely_handle {start : Int} {e : Env R} {op : Operation R κ} {rest : List (Input R κ)}
    (later : start ≤ e.now) (timely : Timely e.now rest) : Timely start (.Handle e op :: rest) := by
  have clocks : (Input.Handle e op :: rest).filterMap clockOf = e.now :: rest.filterMap clockOf := rfl
  unfold Timely at timely ⊢
  rw [clocks]
  refine List.pairwise_cons.mpr ⟨fun t member => ?_, timely⟩
  rcases List.mem_cons.mp member with rfl | member
  · exact later
  · exact Int.le_trans later ((List.pairwise_cons.mp timely).1 t member)

end

section
variable {R κ : Type} [Zero R] [Add R] [Sub R] [Mul R] [Div R] [NatCast R] [LT R] [DecidableLT R] [CMath R]
variable (D : MapData R) (T : TripTimings) (start : Int) (w : World R κ)

/-- Inputs other than a cancel, in the order of the clock, lead to a state in which a query is accepted. -/
def CanServe : Prop :=
  ∃ inputs : List (Input R κ), (∀ i ∈ inputs, Commits i) ∧ Timely start inputs ∧
    ∃ w' os, burst (machine D T) w inputs = .ok (w', os) ∧ w'.ctrl.status.state = .Idle

/-- Such inputs lead to a projection that reads a point which nothing assigned. -/
def ReadsUnassigned : Prop :=
  ∃ inputs : List (Input R κ), (∀ i ∈ inputs, Commits i) ∧ Timely start inputs ∧
    burst (machine D T) w inputs = .error .UnassignedPoint

end

section
variable {R κ : Type} [Zero R] [Add R] [Sub R] [Mul R] [Div R] [NatCast R] [LT R] [DecidableLT R] [CMath R]
variable {D : MapData R} {T : TripTimings} {start : Int} {w w' : World R κ}
variable {past : History (World R κ) (Input R κ) (Output R κ)} {os : List (Output R κ)}

/-! ### From the quote on -/

omit [Div R] in
/-- No step but a cancel takes a quote back. -/
theorem quoted_kept {i : Input R κ} {p p' : Pipeline R κ} {told : List (Notice R κ)} (moved : Progress D T i p told p')
    (commits : Commits i) (quoted : unquoted p.leg p.state = false) : unquoted p'.leg p'.state = false := by
  have elsewhere : ∀ s, unquoted p.leg s = true → p.state ≠ s := by
    rintro s before rfl
    rw [before] at quoted
    cases quoted
  cases moved with
  | quiet _ _ | locState _ | routeState _ | eta _ _ _ | refuse _ | refuseTrip _ => exact quoted
  | awaitLocalisation _ _ _ | awaitRoute _ _ _ | awaitEta _ _ _ => exact quoted
  | cancel _ => exact commits.elim
  | endTrip _ _ _ _ _ | acceptTrip _ _ => rfl
  | drive _ s _ _ _ _ next _ _ _ => cases s <;> first | rfl | cases next
  | initialised state _ | publishPose state | localised state _ | publishGoal state | routeSet state _ =>
    exact absurd state (elsewhere _ rfl)
  | failOpen idle _ _ | openQuery _ _ idle => exact absurd idle (elsewhere _ rfl)
  | endPickup _ _ _ _ state leg _ _ _ => exact absurd state (elsewhere _ (by rw [leg]; rfl))
  | fail fails _ _ =>
    rcases fails with ⟨state, _⟩ | ⟨state, _⟩ | ⟨state, leg, _⟩
    · exact absurd state (elsewhere _ rfl)
    · exact absurd state (elsewhere _ rfl)
    · exact absurd state (elsewhere _ (by rw [leg]; rfl))

/-- No inputs but a cancel take a quote back. -/
theorem quoted_stays {inputs : List (Input R κ)} (run : Runs (machine D T) past w)
    (quoted : unquoted w.ctrl.currentLeg w.ctrl.status.state = false) (commits : ∀ i ∈ inputs, Commits i)
    (done : burst (machine D T) w inputs = .ok (w', os)) : w'.ctrl.status.state ≠ .Idle := by
  induction inputs generalizing past w os with
  | nil =>
    cases done
    intro idle
    rw [idle] at quoted
    cases quoted
  | cons i rest ih =>
    obtain ⟨u, first, later, stepped, others, _⟩ := burst_cons done
    obtain ⟨own, rest⟩ := List.forall_mem_cons.mp commits
    exact ih (run.step stepped) (quoted_kept (step_progress run stepped) own quoted) rest others

/-! ### Before the quote -/

theorem canServe_idle (idle : w.ctrl.status.state = .Idle) : CanServe D T start w :=
  ⟨[], by simp, by simp [Timely], w, [], rfl, idle⟩

/-- An input after which the inputs that are left lead back. -/
theorem canServe_cons {e : Env R} {op : Operation R κ} {w' : World R κ} (later : start ≤ e.now)
    (commits : Commits (.Handle e op)) (stepped : step D T w (.Handle e op) = .ok (w', os))
    (serves : CanServe D T e.now w') : CanServe D T start w := by
  obtain ⟨rest, others, timely, w'', os', done, idle⟩ := serves
  refine ⟨.Handle e op :: rest, List.forall_mem_cons.mpr ⟨commits, others⟩, timely_handle later timely, w'',
    os ++ os', ?_, idle⟩
  simp [burst, show (machine D T).step w (.Handle e op) = .ok (w', os) from stepped, done, Except.map]

/-- An operation that returns is handled. -/
theorem handle_ok {e : Env R} {op : Operation R κ} {c : TripController R κ}
    (applied : op.apply D T e w.ctrl = .ok c) : ∃ w' os, step D T w (.Handle e op) = .ok (w', os) := by
  simp only [step, applied, bind, Except.bind]
  split <;> exact ⟨_, _, rfl⟩

/-- What an operation that was handled left. -/
theorem handled {e : Env R} {op : Operation R κ} (stepped : step D T w (.Handle e op) = .ok (w', os)) :
    ∃ c, op.apply D T e w.ctrl = .ok c ∧ w'.ctrl = c.settled := by
  obtain ⟨c, applied, _, rfl⟩ := handle_cases stepped
  refine ⟨c, applied, ?_⟩
  split <;> rfl

/-- An operation that returns leads back where what it leaves does. -/
theorem canServe_handle (run : Runs (machine D T) past w) (e : Env R) {op : Operation R κ} {c : TripController R κ}
    (applied : op.apply D T e w.ctrl = .ok c) (later : start ≤ e.now) (commits : Commits (.Handle e op))
    (next : ∀ past' (w' : World R κ), Runs (machine D T) past' w' → w'.ctrl = c.settled → CanServe D T e.now w') :
    CanServe D T start w := by
  obtain ⟨w', os, stepped⟩ := handle_ok applied
  have run' : Runs (machine D T) (⟨w, .Handle e op, os, w'⟩ :: past) w' := run.step stepped
  refine canServe_cons later commits stepped (next _ w' run' ?_)
  obtain ⟨c', applied', left⟩ := handled stepped
  cases applied.symm.trans applied'
  exact left

/-- The surroundings at a reading of the clock, with nothing to be read of them. -/
def alone (now : Int) : Env R := ⟨now, none, false, false⟩

/-- Some later clock finds a wait over. -/
theorem late_clock (start since ms : Int) : ∃ now, start ≤ now ∧ ms ≤ elapsedMs now since := by
  refine ⟨max start (since + max ms 0 * 1000000), Int.le_max_left _ _, ?_⟩
  have after : max ms 0 * 1000000 ≤ max start (since + max ms 0 * 1000000) - since := by omega
  unfold elapsedMs
  rw [Int.tdiv_eq_ediv_of_nonneg (by omega)]
  exact Int.le_trans (Int.le_max_left ms 0) (Int.le_ediv_of_mul_le (by omega) after)

/-- A wait of a query is over, and not because it has ended well; only the trip leg ends with its ETA. -/
def WaitOver (T : TripTimings) (now : Int) (p : Pipeline R κ) : Prop :=
  p.state = .QueryWaitingLocalisation ∧ p.loc ≠ some .Initialized ∧ T.locTimeoutMs ≤ elapsedMs now p.enteredAt ∨
  p.state = .QueryWaitingRoute ∧ p.route ≠ some .Set ∧ T.routeTimeoutMs ≤ elapsedMs now p.enteredAt ∨
  p.state = .QueryReadingEta ∧ p.leg = .Pickup ∧ T.etaSettleMs ≤ elapsedMs now p.enteredAt

omit [Div R] in
/-- The tick that finds a wait over fails the query, or ends its pickup leg. -/
theorem waitOver_tick {e : Env R} {p p' : Pipeline R κ} {told : List (Notice R κ)}
    (moved : Progress D T (.Handle e .Tick) p told p') (late : WaitOver T e.now p) :
    p'.state = .Idle ∨ p.state = .QueryReadingEta ∧ p'.state = .QueryPublishingInitialPose := by
  have query : querying p.state = true := by
    rcases late with ⟨state, _⟩ | ⟨state, _⟩ | ⟨state, _⟩ <;> rw [state] <;> rfl
  cases moved with
  | fail _ closed _ => exact .inl closed.state
  | endPickup _ _ _ _ state _ _ _ _ => exact .inr ⟨state, rfl⟩
  | quiet calm _ =>
    rw [calm.1] at query
    cases query
  | drive _ _ _ _ _ way _ _ _ _ =>
    rw [querying_of_driving way] at query
    cases query
  | initialised state _ | publishPose state | publishGoal state => simp [WaitOver, state] at late
  | localised state good | routeSet state good => simp [WaitOver, state, good] at late
  | awaitLocalisation state _ early | awaitRoute state _ early | awaitEta state _ early =>
    simp only [WaitOver, state, reduceCtorEq, false_and, true_and, or_false, false_or] at late
    omega
  | endTrip _ _ state leg _ => simp [WaitOver, state, leg] at late

/-- A message that leaves the controller waiting: a tick that is late enough ends the query. -/
theorem canServe_wait (run : Runs (machine D T) past w) {op : Operation R κ} {c : TripController R κ}
    (applied : op.apply D T (alone start) w.ctrl = .ok c) (commits : Commits (.Handle (alone start) op)) (ms : Int)
    (ticks : ∀ now, ∃ c', c.settled.tick D T (alone now) = .ok c')
    (waits : ∀ now, ms ≤ elapsedMs now c.stateEnteredAt →
      WaitOver T now (pipelineOf c) ∧ c.status.state ≠ .QueryReadingEta) : CanServe D T start w := by
  refine canServe_handle run (alone start) applied (Int.le_refl _) commits fun past' w' run' left => ?_
  obtain ⟨now, later, late⟩ := late_clock start c.stateEnteredAt ms
  obtain ⟨ended, elsewhere⟩ := waits now late
  obtain ⟨c', ticked⟩ := ticks now
  rw [← left] at ticked
  obtain ⟨w'', os, stepped⟩ := handle_ok (show Operation.apply D T (alone now) w'.ctrl .Tick = .ok c' from ticked)
  have later : (alone start : Env R).now ≤ (alone now : Env R).now := later
  have commits : Commits (.Handle (alone now) .Tick : Input R κ) := trivial
  refine canServe_cons later commits stepped (canServe_idle ?_)
  refine (waitOver_tick (step_progress run' stepped) ?_).resolve_right ?_
  · rw [left]
    exact ended
  · rw [left]
    exact fun reading => elsewhere reading.1

/-- The controller awaits localisation: without it the query fails in time. -/
theorem canServe_localising (run : Runs (machine D T) past w)
    (state : w.ctrl.status.state = .QueryWaitingLocalisation) : CanServe D T start w := by
  have lost : Operation.apply D T (alone start) w.ctrl (.LocState .Unknown) =
      .ok { w.ctrl with currentLocState := some .Unknown } := rfl
  refine canServe_wait run lost trivial T.locTimeoutMs (fun now => ?_) fun now late => ?_
  · simp [TripController.tick, TripController.settled, state]
  · exact ⟨.inl ⟨state, by simp [pipelineOf], late⟩, by simp [state]⟩

/-- The controller awaits the route: without it the query fails in time. -/
theorem canServe_routing (run : Runs (machine D T) past w)
    (state : w.ctrl.status.state = .QueryWaitingRoute) : CanServe D T start w := by
  have unset : Operation.apply D T (alone start) w.ctrl (.RouteState .Unset) =
      .ok { w.ctrl with currentRouteState := some .Unset } := rfl
  refine canServe_wait run unset trivial T.routeTimeoutMs (fun now => ?_) fun now late => ?_
  · simp [TripController.tick, TripController.settled, state]
  · exact ⟨.inr (.inl ⟨state, by simp [pipelineOf], late⟩), by simp [state]⟩

/-- The controller begins a leg. -/
theorem canServe_beginning (run : Runs (machine D T) past w)
    (state : w.ctrl.status.state = .QueryPublishingInitialPose) : CanServe D T start w := by
  have ticks : Operation.apply D T (alone start) w.ctrl .Tick = .ok (w.ctrl.tickQueryPublishingInitialPose start) := by
    simp [Operation.apply, TripController.tick, state, alone]
  refine canServe_handle run (alone start) ticks (Int.le_refl _) trivial fun past' w' later left => ?_
  exact canServe_localising later (by simp [left, TripController.settled, TripController.tickQueryPublishingInitialPose])

/-- The controller has localised for a leg. -/
theorem canServe_publishing (run : Runs (machine D T) past w)
    (state : w.ctrl.status.state = .QueryPublishingGoal) : CanServe D T start w := by
  have ticks : Operation.apply D T (alone start) w.ctrl .Tick = .ok (w.ctrl.tickQueryPublishingGoal start) := by
    simp [Operation.apply, TripController.tick, state, alone]
  refine canServe_handle run (alone start) ticks (Int.le_refl _) trivial fun past' w' later left => ?_
  exact canServe_routing later (by simp [left, TripController.settled, TripController.tickQueryPublishingGoal])

/-- The controller waits to be localised in the map. -/
theorem canServe_initialising (run : Runs (machine D T) past w)
    (state : w.ctrl.status.state = .InitializingInMap) : CanServe D T start w := by
  have heard : Operation.apply D T (alone start) w.ctrl (.LocState .Initialized) =
      .ok { w.ctrl with currentLocState := some .Initialized } := rfl
  refine canServe_handle run (alone start) heard (Int.le_refl _) trivial fun past' w' run' left => ?_
  have localised : w'.ctrl.status.state = .InitializingInMap ∧ w'.ctrl.currentLocState = some .Initialized := by
    rw [left]
    exact ⟨state, rfl⟩
  have ticks : Operation.apply D T (alone start) w'.ctrl .Tick = .ok (w'.ctrl.tickInitializingInMap start) := by
    simp [Operation.apply, TripController.tick, localised.1, alone]
  refine canServe_handle run' (alone start) ticks (Int.le_refl _) trivial fun _ w'' later left' => ?_
  exact canServe_idle (by simp [left', TripController.settled, TripController.tickInitializingInMap,
    TripController.localised, localised.2])

/-- The controller reads the ETA of the pickup leg: the query fails, or goes on to the
    trip leg, unless that is projected onto a lane without a segment. -/
theorem canServe_reading (bounded : Bounded D) (run : Runs (machine D T) past w)
    (state : w.ctrl.status.state = .QueryReadingEta) (leg : w.ctrl.currentLeg = .Pickup) :
    CanServe D T start w ∨ ReadsUnassigned D T start w := by
  obtain ⟨now, later, late⟩ := late_clock start w.ctrl.stateEnteredAt T.etaSettleMs
  cases stepped : step D T w (.Handle (alone now) .Tick) with
  | error fault =>
    cases step_harmless bounded run _ fault stepped
    refine .inr ⟨[.Handle (alone now) .Tick], by simp [Commits], timely_handle later (by simp [Timely]), ?_⟩
    simp [burst, machine, stepped]
  | ok r =>
    obtain ⟨w', os⟩ := r
    have run' : Runs (machine D T) (⟨w, .Handle (alone now) .Tick, os, w'⟩ :: past) w' := run.step stepped
    have commits : Commits (.Handle (alone now) .Tick : Input R κ) := trivial
    refine .inl (canServe_cons later commits stepped ?_)
    rcases waitOver_tick (step_progress run stepped) (.inr (.inr ⟨state, leg, late⟩)) with idle | ⟨_, again⟩
    · exact canServe_idle idle
    · exact canServe_beginning run' again

/-! ### The next trip -/

/-- Before the quote some inputs other than a cancel lead back to a state in which a
    query is accepted, also with a clock that does not run backwards, unless the end of
    a pickup leg finds no segment to project onto; once a trip is quoted no such inputs
    do, with no clock. -/
theorem next_trip (bounded : Bounded D) (run : Runs (machine D T) past w) :
    (unquoted w.ctrl.currentLeg w.ctrl.status.state = true → ∀ start, CanServe D T start w ∨
      w.ctrl.status.state = .QueryReadingEta ∧ w.ctrl.currentLeg = .Pickup ∧ ReadsUnassigned D T start w) ∧
    (unquoted w.ctrl.currentLeg w.ctrl.status.state = false →
      ∀ inputs : List (Input R κ), (∀ i ∈ inputs, Commits i) → ∀ w' os,
        burst (machine D T) w inputs = .ok (w', os) → w'.ctrl.status.state ≠ .Idle) := by
  constructor
  · intro before start
    cases state : w.ctrl.status.state with
    | Idle => exact .inl (canServe_idle state)
    | InitializingInMap => exact .inl (canServe_initialising run state)
    | QueryPublishingInitialPose => exact .inl (canServe_beginning run state)
    | QueryWaitingLocalisation => exact .inl (canServe_localising run state)
    | QueryPublishingGoal => exact .inl (canServe_publishing run state)
    | QueryWaitingRoute => exact .inl (canServe_routing run state)
    | QueryReadingEta =>
      have leg : w.ctrl.currentLeg = .Pickup := by simpa [state, unquoted] using before
      exact (canServe_reading bounded run state leg).imp_right fun reads => ⟨rfl, leg, reads⟩
    | _ => simp [state, unquoted] at before
  · intro quoted inputs commits w' os done
    exact quoted_stays run quoted commits done

end

section
attribute [local instance] streetMath

/-- While the pickup leg of a query on the street waits for its route, and once the trip is quoted. -/
theorem next_trip_on_street :
    (∃ past w, Runs (machine street {} : Machine (World ℚ Unit) _ _ _) past w ∧
      w.ctrl.status.state = .QueryWaitingRoute ∧ ∀ start, CanServe street {} start w) ∧
    (∃ past w, Runs (machine street {} : Machine (World ℚ Unit) _ _ _) past w ∧ w.ctrl.status.state = .RoutesReady ∧
      ∀ start, ¬ CanServe street {} start w) := by
  constructor
  · obtain ⟨past, w, run, waits⟩ := exists_run (M := machine street {}) (s := initialWorld .fresh 0)
      ((quoteOnStreet (some ())).take 5) fresh_starts (fun _ w => decide (w.ctrl.status.state = .QueryWaitingRoute))
      (by decide +kernel)
    have waits : w.ctrl.status.state = .QueryWaitingRoute := by simpa using waits
    refine ⟨past, w, run, waits, fun start => ?_⟩
    refine ((next_trip street_bounded run).1 (by rw [waits]; rfl) start).resolve_right fun reads => ?_
    cases waits.symm.trans reads.1
  · obtain ⟨past, w, run, ready⟩ := exists_run (M := machine street {}) (s := initialWorld .fresh 0)
      (quoteOnStreet (some ())) fresh_starts (fun _ w => decide (w.ctrl.status.state = .RoutesReady))
      (by decide +kernel)
    have ready : w.ctrl.status.state = .RoutesReady := by simpa using ready
    refine ⟨past, w, run, ready, ?_⟩
    rintro start ⟨inputs, commits, _, w', os, done, idle⟩
    exact (next_trip street_bounded run).2 (by rw [ready]; rfl) inputs commits w' os done idle

/-- A trip on the street that is completed is followed by no other without a cancel. -/
theorem completed_is_last : ∃ past w, Runs (machine street {} : Machine (World ℚ Unit) _ _ _) past w ∧
    w.ctrl.status.state = .Completed ∧ ∀ inputs : List (Input ℚ Unit), (∀ i ∈ inputs, Commits i) → ∀ w' os,
      burst (machine street {}) w inputs = .ok (w', os) → w'.ctrl.status.state ≠ .Idle := by
  obtain ⟨past, w, run, done⟩ := completed_on_street
  refine ⟨past, w, run, done, fun inputs commits w' os ended => ?_⟩
  exact quoted_stays run (by rw [done]; rfl) commits ended

end
end AutowareAgent.NextTrip
