import AutowareAgent.NextTrip

/-!
A quoted trip can always be completed. Whatever has happened to it, from the quote
to the arrival, some operations, messages and responses lead it to its end, with
no cancel among them and with a clock that does not run backwards.
-/
namespace AutowareAgent.Completions
open AutowareAgent.Machines AutowareAgent.Lanes AutowareAgent.Trips AutowareAgent.Strand AutowareAgent.Quotes
open AutowareAgent.Automaton AutowareAgent.NextTrip

section
variable {R κ : Type} [Zero R] [Add R] [Sub R] [Mul R] [Div R] [NatCast R] [LT R] [DecidableLT R] [CMath R]

/-- Inputs other than a cancel, in the order of the clock, lead to the end of the trip. -/
def CanComplete (D : MapData R) (T : TripTimings) (start : Int) (w : World R κ) : Prop :=
  ∃ inputs : List (Input R κ), (∀ i ∈ inputs, Commits i) ∧ Timely start inputs ∧
    ∃ w' os, burst (machine D T) w inputs = .ok (w', os) ∧ w'.ctrl.status.state = .Completed

/-- A trip is quoted and not yet at its end. -/
def underWay : TripState → Bool
  | .RoutesReady | .WaitingForPickupStart | .PublishingInitialPose | .WaitingLocalisation | .Engaging
  | .DrivingToPickup | .WaitingForMove | .Running => true
  | _ => false

variable {D : MapData R} {T : TripTimings} {start : Int} {w w' : World R κ}
variable {past : History (World R κ) (Input R κ) (Output R κ)} {os : List (Output R κ)}

/-- An input that comes no earlier than the last one leads on from what it leaves. -/
theorem complete_step {i : Input R κ} (stepped : step D T w i = .ok (w', os))
    (later : ∀ now, clockOf i = some now → start ≤ now) (commits : Commits i)
    (next : CanComplete D T ((clockOf i).getD start) w') : CanComplete D T start w := by
  obtain ⟨rest, others, timely, w'', os', done, ended⟩ := next
  refine ⟨i :: rest, List.forall_mem_cons.mpr ⟨commits, others⟩, ?_, w'', os ++ os', ?_, ended⟩
  · unfold Timely at timely ⊢
    rw [List.filterMap_cons]
    cases clock : clockOf i with
    | none =>
      rw [clock] at timely
      exact timely
    | some now =>
      rw [clock] at timely
      refine List.pairwise_cons.mpr ⟨fun t member => ?_, timely⟩
      rcases List.mem_cons.mp member with rfl | member
      · exact later _ clock
      · exact Int.le_trans (later _ clock) ((List.pairwise_cons.mp timely).1 t member)
  · simp [burst, show (machine D T).step w i = .ok (w', os) from stepped, done, Except.map]

/-- An operation that is handled leads on from what it leaves of the controller. -/
theorem complete_handle (e : Env R) (op : Operation R κ) {P : TripController R κ → Prop}
    (run : Runs (machine D T) past w) (later : start ≤ e.now) (commits : Commits (.Handle e op))
    (applied : ∃ c, op.apply D T e w.ctrl = .ok c ∧ P c.settled)
    (next : ∀ past' (w' : World R κ), Runs (machine D T) past' w' → P w'.ctrl → CanComplete D T e.now w') :
    CanComplete D T start w := by
  obtain ⟨c, applied, left⟩ := applied
  have handled : ∃ w', step D T w (.Handle e op) = .ok (w', c.out) ∧ w'.ctrl = c.settled := by
    by_cases asked : requestsMode c.out = true
    · refine ⟨{ w with ctrl := c.settled, modeCalls := w.modeCalls ++ [w.nextSeq], nextSeq := w.nextSeq + 1 }, ?_, rfl⟩
      simp [step, applied, asked, bind, Except.bind, pure, Except.pure]
    · refine ⟨{ w with ctrl := c.settled }, ?_, rfl⟩
      simp [step, applied, asked, bind, Except.bind, pure, Except.pure]
  obtain ⟨w', stepped, own⟩ := handled
  have run' : Runs (machine D T) (⟨w, .Handle e op, c.out, w'⟩ :: past) w' := run.step stepped
  refine complete_step stepped ?_ commits (next _ w' run' (own ▸ left))
  intro now clock
  cases clock
  exact later

/-! ### The end of the trip -/

theorem completes_completed (state : w.ctrl.status.state = .Completed) : CanComplete D T start w :=
  ⟨[], by simp, by simp [Timely], w, [], rfl, state⟩

/-- The route state says that a driving state has come to its end. -/
def Arrives (state : TripState) (c : TripController R κ) : Prop :=
  c.status.state = state ∧ c.currentRouteState = some .Arrived

theorem completes_running (run : Runs (machine D T) past w) (state : w.ctrl.status.state = .Running) :
    CanComplete D T start w := by
  refine complete_handle (alone start) (.RouteState .Arrived) (P := Arrives .Running) run (Int.le_refl _)
    trivial ⟨_, rfl, state, rfl⟩ ?_
  intro past' w' run' arrives
  refine complete_handle (alone start) .Tick (P := fun c => c.status.state = .Completed) run'
    (Int.le_refl _) trivial ⟨_, by simp [Operation.apply, TripController.tick, arrives.1]; rfl, ?_⟩ ?_
  · simp [TripController.tickRunning, TripController.tickDriving, arrives.2, TripController.settled]
  · exact fun _ _ _ => completes_completed

/-! ### Engaging -/

/-- An engaging controller sends a request once two seconds have passed, and the
    answers to it come at once. -/
theorem complete_request {now : Int} (run : Runs (machine D T) past w) (state : w.ctrl.status.state = .Engaging)
    (available : w.ctrl.currentModeState = some true) (later : start ≤ now)
    (late : 2000 ≤ elapsedMs now w.ctrl.lastPublishTime)
    (next : ∀ past' (w' : World R κ), Runs (machine D T) past' w' →
      w'.ctrl.status.state = (if w.ctrl.engagingForPickup then .DrivingToPickup else .Running) →
      CanComplete D T now w') : CanComplete D T start w := by
  let e : Env R := ⟨now, none, true, true⟩
  let c : TripController R κ := { w.ctrl.emit .ModeRequest with lastPublishTime := now }
  let seq := w.nextSeq
  have ticked : Operation.apply D T e w.ctrl .Tick = .ok c := by
    simp [Operation.apply, TripController.tick, state, TripController.tickEngaging, late, TripController.doEngage,
      available, e, c]
  have out : c.out = [.ModeRequest] := by simp [c, TripController.emit, out_nil run]
  have asked : requestsMode c.out = true := by
    rw [out]
    rfl
  -- the request, and the three answers to it
  let w₁ : World R κ := { w with ctrl := c.settled, modeCalls := w.modeCalls ++ [seq], nextSeq := seq + 1 }
  let w₂ : World R κ := { w₁ with modeCalls := w₁.modeCalls.erase seq, engageCalls := w₁.engageCalls ++ [seq] }
  let w₃ : World R κ := { w₂ with engageCalls := w₂.engageCalls.erase seq, acks := w₂.acks ++ [seq] }
  let w₄ : World R κ := { w₃ with ctrl := (w₃.ctrl.onEngaged now).settled, acks := w₃.acks.erase seq }
  have requested : step D T w (.Handle e .Tick) = .ok (w₁, c.out) := by
    simp [step, ticked, asked, bind, Except.bind, pure, Except.pure, w₁, seq]
  have granted : step D T w₁ (.ModeResponse seq true) = .ok (w₂, [.EngageRequest true]) := by
    simp [step, w₁, w₂]
  have engaged : step D T w₂ (.EngageResponse seq 1) = .ok (w₃, []) := by
    simp [step, w₂, w₃]
  have acknowledged : step D T w₃ (.Acknowledge e seq) = .ok (w₄, (w₃.ctrl.onEngaged now).out) := by
    simp [step, w₃, w₄, e]
  have run₁ : Runs (machine D T) (⟨w, .Handle e .Tick, c.out, w₁⟩ :: past) w₁ := run.step requested
  have run₂ : Runs (machine D T) (⟨w₁, .ModeResponse seq true, [.EngageRequest true], w₂⟩ :: _) w₂ := run₁.step granted
  have run₃ : Runs (machine D T) (⟨w₂, .EngageResponse seq 1, [], w₃⟩ :: _) w₃ := run₂.step engaged
  have run₄ : Runs (machine D T) (⟨w₃, .Acknowledge e seq, (w₃.ctrl.onEngaged now).out, w₄⟩ :: _) w₄ :=
    run₃.step acknowledged
  have driven : w₄.ctrl.status.state = if w.ctrl.engagingForPickup then .DrivingToPickup else .Running := by
    have still : w₃.ctrl.status.state = .Engaging := state
    show (w₃.ctrl.onEngaged now).settled.status.state = _
    unfold TripController.onEngaged
    rw [if_pos still]
    show (if w.ctrl.engagingForPickup = true then _ else _ : TripController R κ).settled.status.state = _
    split <;> simp [TripController.settled]
  refine complete_step requested (by rintro _ ⟨⟩; exact later) trivial ?_
  refine complete_step granted (by rintro _ ⟨⟩) trivial ?_
  refine complete_step engaged (by rintro _ ⟨⟩) trivial ?_
  exact complete_step acknowledged (by rintro _ ⟨⟩; exact Int.le_refl _) trivial (next _ w₄ run₄ driven)

/-- The controller engages, and the next request that it sends is answered at once. -/
theorem completes_engaging (run : Runs (machine D T) past w) (state : w.ctrl.status.state = .Engaging)
    (next : ∀ start past' (w' : World R κ), Runs (machine D T) past' w' →
      w'.ctrl.status.state = (if w.ctrl.engagingForPickup then .DrivingToPickup else .Running) →
      CanComplete D T start w') : CanComplete D T start w := by
  refine complete_handle (alone start) (.ModeState true) (P := fun c => c.status.state = .Engaging ∧
    c.currentModeState = some true ∧ c.engagingForPickup = w.ctrl.engagingForPickup) run (Int.le_refl _) trivial
    ⟨_, rfl, state, rfl, rfl⟩ ?_
  rintro past' w' run' ⟨state', available, leg⟩
  obtain ⟨now, later, late⟩ := late_clock start w'.ctrl.lastPublishTime 2000
  refine complete_request run' state' available later late fun past'' w'' run'' left => ?_
  exact next now past'' w'' run'' (by rw [left, leg])

/-- The trip leg engages: the drive follows. -/
theorem completes_tripLeg (run : Runs (machine D T) past w) (state : w.ctrl.status.state = .Engaging)
    (leg : w.ctrl.engagingForPickup = false) : CanComplete D T start w := by
  refine completes_engaging run state fun start' past' w' run' left => completes_running run' ?_
  rw [left, leg]
  rfl

/-! ### From the pickup on -/

/-- The passenger's move: the goal lane of the quote is found again. -/
theorem completes_waiting (run : Runs (machine D T) past w) (state : w.ctrl.status.state = .WaitingForMove) :
    CanComplete D T start w := by
  obtain ⟨_, lane, route, _, _, moved⟩ := move_booked start (booked_run run) state
  refine complete_handle (alone start) .Move (P := fun c => c.status.state = .Engaging ∧
    c.engagingForPickup = false) run (Int.le_refl _) trivial ⟨_, by simp [Operation.apply, alone, moved, Except.map]; rfl, ?_⟩ ?_
  · constructor
    · simp [returning, TripController.startTripLeg, TripController.emit, TripController.settled]
    · simp [returning, TripController.startTripLeg, TripController.emit, TripController.settled]
  · exact fun _ w' run' left => completes_tripLeg run' left.1 left.2

theorem completes_drivingToPickup (run : Runs (machine D T) past w)
    (state : w.ctrl.status.state = .DrivingToPickup) : CanComplete D T start w := by
  refine complete_handle (alone start) (.RouteState .Arrived) (P := Arrives .DrivingToPickup) run
    (Int.le_refl _) trivial ⟨_, rfl, state, rfl⟩ ?_
  intro past' w' run' arrives
  refine complete_handle (alone start) .Tick (P := fun c => c.status.state = .WaitingForMove) run'
    (Int.le_refl _) trivial ⟨_, by simp [Operation.apply, TripController.tick, arrives.1]; rfl, ?_⟩ ?_
  · simp [TripController.tickDrivingToPickup, TripController.tickDriving, arrives.2, TripController.settled]
  · exact fun _ _ run'' => completes_waiting run''

theorem completes_pickupLeg (run : Runs (machine D T) past w) (state : w.ctrl.status.state = .Engaging) :
    CanComplete D T start w := by
  refine completes_engaging run state fun start' past' w' run' left => ?_
  by_cases leg : w.ctrl.engagingForPickup = true
  · rw [if_pos leg] at left
    exact completes_drivingToPickup run' left
  · rw [if_neg leg] at left
    exact completes_running run' left

/-! ### From the quote on -/

theorem completes_localising (run : Runs (machine D T) past w)
    (state : w.ctrl.status.state = .WaitingLocalisation) : CanComplete D T start w := by
  refine complete_handle (alone start) (.LocState .Initialized) (P := fun c =>
    c.status.state = .WaitingLocalisation ∧ c.currentLocState = some .Initialized) run (Int.le_refl _) trivial
    ⟨_, rfl, state, rfl⟩ ?_
  rintro past' w' run' ⟨state', localised⟩
  refine complete_handle (alone start) .Tick (P := fun c => c.status.state = .Engaging) run'
    (Int.le_refl _) trivial ⟨_, by simp [Operation.apply, TripController.tick, state']; rfl, ?_⟩ ?_
  · simp [TripController.tickWaitingLocalisation, TripController.localised, localised, TripController.settled]
  · exact fun _ _ run'' => completes_pickupLeg run''

theorem completes_publishing (run : Runs (machine D T) past w)
    (state : w.ctrl.status.state = .PublishingInitialPose) : CanComplete D T start w := by
  refine complete_handle (alone start) .Tick (P := fun c => c.status.state = .WaitingLocalisation) run
    (Int.le_refl _) trivial ⟨_, by simp [Operation.apply, TripController.tick, state]; rfl, ?_⟩ ?_
  · simp [TripController.tickPublishingInitialPose, TripController.settled]
  · exact fun _ _ run' => completes_localising run'

theorem completes_accepted (run : Runs (machine D T) past w)
    (state : w.ctrl.status.state = .WaitingForPickupStart) : CanComplete D T start w := by
  refine complete_handle (alone start) .GoToPickup (P := fun c => c.status.state = .PublishingInitialPose)
    run (Int.le_refl _) trivial ⟨_, rfl, ?_⟩ ?_
  · simp [TripController.goToPickup, state, returning, TripController.emit, TripController.settled]
  · exact fun _ _ run' => completes_publishing run'

theorem completes_ready (run : Runs (machine D T) past w) (state : w.ctrl.status.state = .RoutesReady) :
    CanComplete D T start w := by
  obtain ⟨pickup, _, route, _, started⟩ := startTrip_booked start (booked_run run) state
  refine complete_handle (alone start) .StartTrip (P := fun c => c.status.state = .WaitingForPickupStart)
    run (Int.le_refl _) trivial ⟨_, by simp [Operation.apply, alone, started, Except.map]; rfl, ?_⟩ ?_
  · simp [returning, TripController.acceptTrip, TripController.emit, TripController.settled]
  · exact fun _ _ run' => completes_accepted run'

/-- In every state that a run reaches with a trip under way, whatever has come in
    between, inputs other than a cancel still lead the trip to its end, from any
    time of the clock on: no trip is stuck, and none can be refused any more. -/
theorem can_complete (run : Runs (machine D T) past w) (quoted : underWay w.ctrl.status.state = true) (start : Int) :
    CanComplete D T start w := by
  cases state : w.ctrl.status.state with
  | RoutesReady => exact completes_ready run state
  | WaitingForPickupStart => exact completes_accepted run state
  | PublishingInitialPose => exact completes_publishing run state
  | WaitingLocalisation => exact completes_localising run state
  | Engaging => exact completes_pickupLeg run state
  | DrivingToPickup => exact completes_drivingToPickup run state
  | WaitingForMove => exact completes_waiting run state
  | Running => exact completes_running run state
  | _ => simp [state, underWay] at quoted

end

section
attribute [local instance] streetMath

/-- The trip is quoted on the street; then the pickup leg engages. -/
theorem can_complete_on_street :
    (∃ past w, Runs (machine street {} : Machine (World ℚ Unit) _ _ _) past w ∧ w.ctrl.status.state = .RoutesReady ∧
      CanComplete street {} 100 w) ∧
    ∃ past w, Runs (machine street {} : Machine (World ℚ Unit) _ _ _) past w ∧ w.ctrl.status.state = .Engaging ∧
      CanComplete street {} 0 w := by
  constructor
  · obtain ⟨past, w, run, ready⟩ := exists_run (M := machine street {}) (s := initialWorld .fresh 0)
      (quoteOnStreet (some ())) fresh_starts (fun _ w => decide (w.ctrl.status.state = .RoutesReady))
      (by decide +kernel)
    have ready : w.ctrl.status.state = .RoutesReady := by simpa using ready
    exact ⟨past, w, run, ready, can_complete run (by rw [ready]; rfl) 100⟩
  · obtain ⟨past, w, run, engages⟩ := exists_run (M := machine street {}) (s := initialWorld .fresh 0)
      (tripOnStreet (some ())) fresh_starts (fun _ w => decide (w.ctrl.status.state = .Engaging)) (by decide +kernel)
    have engages : w.ctrl.status.state = .Engaging := by simpa using engages
    exact ⟨past, w, run, engages, can_complete run (by rw [engages]; rfl) 0⟩

end
end AutowareAgent.Completions
