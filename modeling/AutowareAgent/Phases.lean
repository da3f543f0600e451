import AutowareAgent.Automaton

/-!
The order of a trip's phases. `Engaging` belongs to both legs, and the flag that
tells them apart is also set by a `startTrip` that is refused: the phases keep
their order in the runs in which no such call meets the engagement of the trip
leg.
-/
namespace AutowareAgent.Phases
open AutowareAgent.Machines AutowareAgent.Lanes AutowareAgent.LaneCache AutowareAgent.Trips AutowareAgent.Strand
open AutowareAgent.Automaton

/-- The phases of a trip in their order. -/
def phases : List TripState :=
  [.WaitingForPickupStart, .PublishingInitialPose, .WaitingLocalisation, .Engaging, .DrivingToPickup,
   .WaitingForMove, .Engaging, .Running, .Completed]

/-- A beginning of the phases, with `Failed` after it or not. -/
def InOrder (entered : List TripState) : Prop :=
  ∃ done, done <+: phases ∧ (entered = done ∨ entered = done ++ [.Failed])

/-- The states that signals say are entered. -/
def entries (sigs : List Signal) : List TripState :=
  sigs.filterMap fun s => match s with
    | .Entered state => some state
    | _ => none

@[simp] theorem entries_append (sigs sigs' : List Signal) : entries (sigs ++ sigs') = entries sigs ++ entries sigs' :=
  List.filterMap_append

section
variable {R κ : Type}

/-- The states entered in a history, in the order of time. -/
def entered (past : History (World R κ) (Input R κ) (Output R κ)) : List TripState :=
  past.reverse.flatMap fun m => entries (signals m.outputs)

/-- A call of `startTrip` that returned true. -/
def Accepts (m : Moment (World R κ) (Input R κ) (Output R κ)) : Prop :=
  eventOf m.pre m.input = .StartTrip ∧ .Returned true ∈ m.outputs

/-- A call of `move`, also by way of a move command, that returned true. -/
def Moves (m : Moment (World R κ) (Input R κ) (Output R κ)) : Prop :=
  (eventOf m.pre m.input = .Move ∨ eventOf m.pre m.input = .HandleMove ∧ m.pre.ctrl.status.state = .WaitingForMove) ∧
    .Returned true ∈ m.outputs

/-- From an accepted trip to the next cancel the phases come in order. -/
def TripsInOrder (past : History (World R κ) (Input R κ) (Output R κ)) : Prop :=
  ∀ newer m older, past = newer ++ m :: older → Accepts m →
    (∀ n ∈ newer, eventOf n.pre n.input ≠ .Cancel) → InOrder (entered (newer ++ [m]))

/-- From an accepted move to the next cancel the pickup leg does not come back. -/
def PickupIsOver (past : History (World R κ) (Input R κ) (Output R κ)) : Prop :=
  ∀ newer m older, past = newer ++ m :: older → Moves m → (∀ n ∈ newer, eventOf n.pre n.input ≠ .Cancel) →
    .DrivingToPickup ∉ entered newer ∧ ∀ n ∈ newer, .PickupArrived ∉ n.outputs

/-- `startTrip` is called during the engagement of the trip leg. -/
def Misplaced (m : Moment (World R κ) (Input R κ) (Output R κ)) : Prop :=
  eventOf m.pre m.input = .StartTrip ∧ m.pre.ctrl.status.state = .Engaging ∧ m.pre.ctrl.engagingForPickup = false

instance (m : Moment (World R κ) (Input R κ) (Output R κ)) : Decidable (Misplaced m) :=
  inferInstanceAs (Decidable (_ ∧ _ ∧ _))

instance [DecidableEq R] [DecidableEq κ] (m : Moment (World R κ) (Input R κ) (Output R κ)) : Decidable (Moves m) :=
  inferInstanceAs (Decidable (_ ∧ _))

end

/-! ### The phases of the automaton -/

/-- The phases that a trip has behind it, read off its phase. -/
def soFar (p : Phase) : List TripState :=
  match p.state with
  | .WaitingForPickupStart => phases.take 1
  | .PublishingInitialPose => phases.take 2
  | .WaitingLocalisation => phases.take 3
  | .Engaging => phases.take (if p.forPickup then 4 else 7)
  | .DrivingToPickup => phases.take 5
  | .WaitingForMove => phases.take 6
  | .Running => phases.take 8
  | .Completed => phases
  | _ => []

/-- A trip has entered its phases in order and is in the last of them. The flag
    is up until the pickup leg is engaged. -/
inductive Stage : List TripState → Phase → Prop
  | under {p : Phase} (way : planning p.state = false) (alive : p.state ≠ .Failed ∧ p.state ≠ .Cancelled)
      (flag : p.state = .WaitingForPickupStart ∨ p.state = .PublishingInitialPose ∨ p.state = .WaitingLocalisation →
        p.forPickup = true) : Stage (soFar p) p
  | failed {p : Phase} {done : List TripState} (order : done <+: phases) (failed : p.state = .Failed) :
      Stage (done ++ [.Failed]) p

theorem soFar_begins (p : Phase) : soFar p <+: phases := by
  unfold soFar
  split
  all_goals first | exact List.take_prefix _ _ | exact List.prefix_rfl | exact List.nil_prefix

theorem stage_inOrder {l : List TripState} {p : Phase} (stage : Stage l p) : InOrder l := by
  cases stage with
  | under _ _ _ => exact ⟨_, soFar_begins p, .inl rfl⟩
  | failed order _ => exact ⟨_, order, .inr rfl⟩

/-- A move to the next phase. -/
theorem stage_enter {p p' : Phase} {l : List TripState} (way : planning p'.state = false)
    (alive : p'.state ≠ .Failed ∧ p'.state ≠ .Cancelled)
    (flag : p'.state = .WaitingForPickupStart ∨ p'.state = .PublishingInitialPose ∨ p'.state = .WaitingLocalisation →
      p'.forPickup = true) (next : soFar p ++ l = soFar p') : Stage (soFar p ++ l) p' := by
  rw [next]
  exact .under way alive flag

/-- Every move of a trip under way but a cancel, and but a misplaced start,
    leads to its next phase or to a failure. -/
theorem under_advance {ev : Event} {p p' : Phase} {sigs : List Signal} (way : planning p.state = false)
    (alive : p.state ≠ .Failed ∧ p.state ≠ .Cancelled)
    (flag : p.state = .WaitingForPickupStart ∨ p.state = .PublishingInitialPose ∨ p.state = .WaitingLocalisation →
      p.forPickup = true)
    (moved : Advance ev p sigs p') (kept : ev ≠ .Cancel)
    (placed : ¬(ev = .StartTrip ∧ p.state = .Engaging ∧ p.forPickup = false)) :
    Stage (soFar p ++ entries sigs) p' := by
  cases moved with
  | cancel => exact absurd rfl kept
  | plan _ before _ _ _ => rw [way] at before; cases before
  | failTrip ready _ | acceptTrip ready _ => rcases ready with state | state <;> rw [state] at way <;> cases way
  | quiet | message | refuse _ | modeChanged | requestMode _ | late _ =>
    exact stage_enter way alive flag (by simp [entries])
  | routeState s => exact stage_enter way alive flag (by simp [entries, soFar])
  | refuseTrip =>
    refine stage_enter way alive (fun _ => rfl) ?_
    simp only [true_and, not_and, Bool.not_eq_false] at placed
    by_cases engaging : p.state = .Engaging
    · simp [entries, soFar, engaging, placed engaging]
    · unfold soFar
      cases state : p.state <;> first | exact absurd state engaging | simp [entries]
  | goToPickup _ waiting =>
    exact stage_enter rfl (by simp) (fun _ => flag (.inl waiting)) (by simp [entries, soFar, waiting, phases])
  | failMove _ waiting =>
    simpa [entries, soFar, waiting] using Stage.failed (p := { p with state := .Failed }) (soFar_begins p) rfl
  | move _ waiting => exact stage_enter rfl (by simp) (by simp) (by simp [entries, soFar, waiting, phases])
  | publishPose publishing =>
    exact stage_enter rfl (by simp) (fun _ => flag (.inr (.inl publishing)))
      (by simp [entries, soFar, publishing, phases])
  | publishGoal localised =>
    exact stage_enter rfl (by simp) (by simp)
      (by simp [entries, soFar, localised, flag (.inr (.inr localised)), phases])
  | arrivePickup driving _ => exact stage_enter rfl (by simp) (by simp) (by simp [entries, soFar, driving, phases])
  | arriveDropoff driving _ => exact stage_enter rfl (by simp) (by simp) (by simp [entries, soFar, driving, phases])
  | engagePickup engaging leg =>
    exact stage_enter rfl (by simp) (by simp) (by simp [entries, soFar, engaging, leg, phases])
  | engageTrip engaging leg =>
    exact stage_enter rfl (by simp) (by simp) (by simp [entries, soFar, engaging, leg, phases])

/-- A failed trip stays so until a cancel. -/
theorem failed_advance {ev : Event} {p p' : Phase} {sigs : List Signal} (failed : p.state = .Failed)
    (moved : Advance ev p sigs p') (kept : ev ≠ .Cancel) : entries sigs = [] ∧ p'.state = .Failed := by
  cases moved with
  | cancel => exact absurd rfl kept
  | plan _ before _ _ _ => rw [failed] at before; cases before
  | failTrip ready _ | acceptTrip ready _ => simp [failed] at ready
  | goToPickup _ waiting | failMove _ waiting | move _ waiting => simp [failed] at waiting
  | publishPose publishing => simp [failed] at publishing
  | publishGoal localised => simp [failed] at localised
  | arrivePickup driving _ | arriveDropoff driving _ => simp [failed] at driving
  | engagePickup engaging _ | engageTrip engaging _ => simp [failed] at engaging
  | _ => exact ⟨rfl, failed⟩

/-- Every move but a cancel, and but a misplaced start, keeps the phases in order. -/
theorem stage_advance {l : List TripState} {ev : Event} {p p' : Phase} {sigs : List Signal} (stage : Stage l p)
    (moved : Advance ev p sigs p') (kept : ev ≠ .Cancel)
    (placed : ¬(ev = .StartTrip ∧ p.state = .Engaging ∧ p.forPickup = false)) : Stage (l ++ entries sigs) p' := by
  cases stage with
  | under way alive flag => exact under_advance way alive flag moved kept placed
  | failed order failed =>
    obtain ⟨nothing, still⟩ := failed_advance failed moved kept
    rw [nothing, List.append_nil]
    exact .failed order still

/-- An accepted trip begins with its first phase. -/
theorem stage_accept {p p' : Phase} {sigs : List Signal} (moved : Advance .StartTrip p sigs p')
    (accepted : .Answered true ∈ sigs) : Stage (entries sigs) p' := by
  cases moved with
  | plan asked _ _ _ _ => simp at asked
  | refuse asked => simp at asked
  | refuseTrip | failTrip _ _ => simp at accepted
  | acceptTrip _ _ =>
    exact Stage.under (p := { p with state := .WaitingForPickupStart, forPickup := true, route := none }) rfl
      (by simp) (by simp)
  | goToPickup asked _ | failMove asked _ | move asked _ => simp at asked

/-- The trip leg is being driven, or was. -/
def OnTripLeg (p : Phase) : Prop :=
  p.state = .Engaging ∧ p.forPickup = false ∨ p.state = .Running ∨ p.state = .Completed ∨ p.state = .Failed

/-- On the trip leg no move but a cancel, or a misplaced start, leads back to the pickup leg. -/
theorem tripLeg_advance {ev : Event} {p p' : Phase} {sigs : List Signal} (leg : OnTripLeg p)
    (moved : Advance ev p sigs p') (kept : ev ≠ .Cancel)
    (placed : ¬(ev = .StartTrip ∧ p.state = .Engaging ∧ p.forPickup = false)) :
    OnTripLeg p' ∧ .DrivingToPickup ∉ entries sigs ∧ .PickupArrived ∉ sigs := by
  cases moved with
  | cancel => exact absurd rfl kept
  | plan _ before _ _ _ => rcases leg with ⟨state, _⟩ | state | state | state <;> rw [state] at before <;> cases before
  | failTrip ready _ | acceptTrip ready _ => rcases ready with state | state <;> simp [OnTripLeg, state] at leg
  | goToPickup _ waiting | failMove _ waiting | move _ waiting => simp [OnTripLeg, waiting] at leg
  | publishPose publishing => simp [OnTripLeg, publishing] at leg
  | publishGoal localised => simp [OnTripLeg, localised] at leg
  | arrivePickup driving _ => simp [OnTripLeg, driving] at leg
  | engagePickup engaging flag => simp [OnTripLeg, engaging, flag] at leg
  | refuseTrip =>
    refine ⟨?_, by simp [entries], by simp⟩
    rcases leg with ⟨state, flag⟩ | later
    · exact absurd ⟨rfl, state, flag⟩ placed
    · exact .inr later
  | engageTrip _ _ => exact ⟨.inr (.inl rfl), by simp [entries], by simp⟩
  | arriveDropoff _ _ => exact ⟨.inr (.inr (.inl rfl)), by simp [entries], by simp⟩
  | _ => exact ⟨leg, by simp [entries], by simp⟩

/-- An accepted move begins the trip leg. -/
theorem tripLeg_move {ev : Event} {p p' : Phase} {sigs : List Signal}
    (asked : ev = .Move ∨ ev = .HandleMove ∧ p.state = .WaitingForMove)
    (moved : Advance ev p sigs p') (accepted : .Answered true ∈ sigs) : OnTripLeg p' := by
  cases moved with
  | move _ _ => exact .inl ⟨rfl, rfl⟩
  | plan planned _ _ _ _ => rcases asked with rfl | ⟨rfl, _⟩ <;> simp at planned
  | goToPickup picked waiting => rcases asked with rfl | ⟨rfl, state⟩ <;> simp_all
  | refuse _ | failMove _ _ => simp at accepted
  | _ => simp at asked

/-! ### Trips in runs -/

section
variable {R κ : Type}

theorem entered_cons (n : Moment (World R κ) (Input R κ) (Output R κ))
    (older : History (World R κ) (Input R κ) (Output R κ)) :
    entered (n :: older) = entered older ++ entries (signals n.outputs) := by
  simp [entered]

end

section
variable {R κ : Type} [Zero R] [Add R] [Sub R] [Mul R] [Div R] [NatCast R] [LT R] [DecidableLT R] [CMath R]
variable {D : MapData R} {T : TripTimings} {past : History (World R κ) (Input R κ) (Output R κ)} {w : World R κ}

/-- What a moment after an accepted call must not be. -/
def Breaks (m : Moment (World R κ) (Input R κ) (Output R κ)) : Prop :=
  eventOf m.pre m.input = .Cancel ∨ Misplaced m

/-- From an accepted trip on the states entered match the phase. -/
theorem stage_since {m : Moment (World R κ) (Input R κ) (Output R κ)}
    {newer older : History (World R κ) (Input R κ) (Output R κ)} (run : Runs (machine D T) (newer ++ m :: older) w)
    (accepts : Accepts m) (kept : ∀ n ∈ newer, ¬ Breaks n) :
    Stage (entered (newer ++ [m])) (phaseOf w.ctrl) := by
  refine Runs.segment (C := fun n => ¬ Breaks n)
    (I := fun newer w => Stage (entered (newer ++ [m])) (phaseOf w.ctrl)) ?_ ?_ run kept
  · obtain ⟨_, at_start⟩ := run.suffix
    obtain ⟨earlier, stepped, _⟩ := at_start.inv
    have moved := step_advance earlier stepped
    rw [accepts.1] at moved
    simpa [entered] using stage_accept moved (mem_signals accepts.2 rfl)
  · intro newer n earlier stage stepped keeps
    rw [List.cons_append, entered_cons]
    exact stage_advance stage (step_advance earlier stepped) (fun cancel => keeps (.inl cancel))
      (fun misplaced => keeps (.inr misplaced))

/-- From an accepted move on the trip leg is driven. -/
theorem tripLeg_since {m : Moment (World R κ) (Input R κ) (Output R κ)}
    {newer older : History (World R κ) (Input R κ) (Output R κ)} (run : Runs (machine D T) (newer ++ m :: older) w)
    (moves : Moves m) (kept : ∀ n ∈ newer, ¬ Breaks n) :
    OnTripLeg (phaseOf w.ctrl) ∧ .DrivingToPickup ∉ entered newer ∧ ∀ n ∈ newer, .PickupArrived ∉ n.outputs := by
  refine Runs.segment (C := fun n => ¬ Breaks n)
    (I := fun newer w => OnTripLeg (phaseOf w.ctrl) ∧ .DrivingToPickup ∉ entered newer ∧
      ∀ n ∈ newer, .PickupArrived ∉ n.outputs) ?_ ?_ run kept
  · obtain ⟨_, at_start⟩ := run.suffix
    obtain ⟨earlier, stepped, _⟩ := at_start.inv
    exact ⟨tripLeg_move moves.1 (step_advance earlier stepped) (mem_signals moves.2 rfl), by simp [entered], by simp⟩
  · rintro newer n earlier ⟨leg, away, silent⟩ stepped keeps
    obtain ⟨leg', away', silent'⟩ := tripLeg_advance leg (step_advance earlier stepped)
      (fun cancel => keeps (.inl cancel)) (fun misplaced => keeps (.inr misplaced))
    refine ⟨leg', ?_, List.forall_mem_cons.mpr ⟨fun member => silent' (mem_signals member rfl), silent⟩⟩
    rw [entered_cons]
    simp [away, away']

/-- In every run without a misplaced start the trips go through their phases in
    order, and the pickup leg does not come back. -/
theorem trips_in_order (run : Runs (machine D T) past w) (placed : ∀ m ∈ past, ¬ Misplaced m) :
    TripsInOrder past ∧ PickupIsOver past := by
  have keeps : ∀ newer m older, past = newer ++ m :: older → (∀ n ∈ newer, eventOf n.pre n.input ≠ .Cancel) →
      ∀ n ∈ newer, ¬ Breaks n := by
    rintro newer m older rfl kept n member (cancel | misplaced)
    · exact kept n member cancel
    · exact placed n (List.mem_append_left _ member) misplaced
  constructor
  · intro newer m older split accepts kept
    exact stage_inOrder (stage_since (split ▸ run) accepts (keeps newer m older split kept))
  · intro newer m older split moves kept
    exact (tripLeg_since (split ▸ run) moves (keeps newer m older split kept)).2

end

section
attribute [local instance] streetMath

/-- A whole trip on the street. -/
theorem trips_in_order_on_street : ∃ past w, Runs (machine street {} : Machine (World ℚ Unit) _ _ _) past w ∧
    w.ctrl.status.state = .Completed ∧ TripsInOrder past ∧ PickupIsOver past := by
  obtain ⟨past, w, run, done⟩ := exists_run (M := machine street {}) (s := initialWorld .fresh 0)
    (tripOnStreet (some ()) ++ pickupOnStreet ++ engagedOnStreet 27 1 ++
      eachSecond 28 [.RouteState .Arrived, .Tick]) fresh_starts
    (fun past w => decide (w.ctrl.status.state = .Completed) && past.all (fun m => !decide (Misplaced m)))
    (by decide +kernel)
  simp only [Bool.and_eq_true, decide_eq_true_eq, List.all_eq_true, Bool.not_eq_true',
    decide_eq_false_iff_not] at done
  exact ⟨past, w, run, done.1, trips_in_order run done.2⟩

/-- A refused `startTrip` during the engagement of the trip leg: the controller
    drives to the pickup again and announces the destination as the pickup. -/
theorem pickup_comes_back : ∃ past w, Runs (machine street {} : Machine (World ℚ Unit) _ _ _) past w ∧
    ¬ (TripsInOrder past ∧ PickupIsOver past) := by
  obtain ⟨past, w, run, back⟩ := exists_run (M := machine street {}) (s := initialWorld .fresh 0)
    (tripOnStreet (some ()) ++ pickupOnStreet ++ eachSecond 27 [.StartTrip] ++ engagedOnStreet 28 1 ++
      eachSecond 29 [.RouteState .Arrived, .Tick]) fresh_starts
    (fun past _ =>
      let newer := since (fun m => decide (Moves m)) past
      past.any (fun m => decide (Moves m)) && newer.all (fun n => eventOf n.pre n.input != .Cancel) &&
        decide (.DrivingToPickup ∈ entered newer))
    (by decide +kernel)
  simp only [Bool.and_eq_true, List.any_eq_true, List.all_eq_true, bne_iff_ne, decide_eq_true_eq] at back
  obtain ⟨⟨⟨n, member, moved⟩, kept⟩, again⟩ := back
  have some : ∃ n ∈ past, (fun m => decide (Moves m)) n = true := ⟨n, member, by simpa using moved⟩
  obtain ⟨m, older, split, moves⟩ := since_split some
  refine ⟨past, w, run, fun claimed => ?_⟩
  exact (claimed.2 _ m older split (by simpa using moves) kept).1 again

end
end AutowareAgent.Phases
