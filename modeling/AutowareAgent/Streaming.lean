import AutowareAgent.Reports

/-!
When the location is streamed. The callback on state changes switches streaming
on where the drive to the pickup begins and off where it arrives; a cancel
overwrites the state without a call of it. So the location is streamed only on
the way to the pickup in the runs in which no cancel is handled there.
-/
namespace AutowareAgent.Streaming
open AutowareAgent.Machines AutowareAgent.Lanes AutowareAgent.LaneCache AutowareAgent.Trips AutowareAgent.Strand
open AutowareAgent.Automaton AutowareAgent.Gateway AutowareAgent.Reports

section
variable {R : Type}

/-- The switch that an act posts to the location bridge. -/
def switching : Act R → Option Bool
  | .SetStreaming enabled => some enabled
  | _ => none

/-- The switches that wait on the bridge's strand, and those that the running
    callbacks still have to post. -/
def pending (s : App R) : List Bool := s.switches ++ s.handler.filterMap switching

/-- Once all switches are processed, streaming is on only on the way to the pickup. -/
def StreamsToPickup (s : App R) : Prop :=
  pending s = [] → s.streamingEnabled = true → s.world.ctrl.status.state = .DrivingToPickup

/-- What streaming comes to once all switches are processed. -/
def wanted (s : App R) : Bool := (pending s).getLast?.getD s.streamingEnabled

/-- A cancel is handled on the way to the pickup. -/
def Abandons (m : Moment (App R) (Turn R) (Effect R)) : Prop :=
  started m = some .CancelTrip ∧ m.pre.world.ctrl.status.state = .DrivingToPickup

instance [DecidableEq R] (m : Moment (App R) (Turn R) (Effect R)) : Decidable (Abandons m) :=
  inferInstanceAs (Decidable (_ ∧ _))

variable {s s' : App R}

/-- What a running callback posts last is what streaming comes to. -/
theorem wanted_posted {posted : List Bool} (more : pending s' = pending s ++ posted)
    (enabled : s'.streamingEnabled = s.streamingEnabled) : wanted s' = posted.getLast?.getD (wanted s) := by
  unfold wanted
  rw [more, enabled, List.getLast?_append]
  cases posted.getLast? <;> rfl

theorem wanted_unchanged (same : pending s' = pending s) (enabled : s'.streamingEnabled = s.streamingEnabled) :
    wanted s' = wanted s :=
  wanted_posted (same.trans (List.append_nil _).symm) enabled

@[simp] theorem apply_enabled (act : Act R) : (act.apply s).streamingEnabled = s.streamingEnabled := by
  cases act <;> rfl

theorem next_switching {act : Act R} {left : List (Act R)} (leaves : act.next s = .ok left) :
    left.filterMap switching = [] := by
  rcases next_cases leaves with ⟨_, _, _, _, rfl⟩ | ⟨_, rfl⟩ <;> rfl

@[simp] theorem apply_switches (act : Act R) : (act.apply s).switches = s.switches ++ (switching act).toList := by
  cases act <;> simp [Act.apply, switching]

theorem ofCommand_switching {act : Act R} (left : ofCommand act = true) : switching act = none := by
  cases act <;> simp_all [ofCommand, switching]

/-- An act of a callback that is done leaves the switches in their order. -/
theorem handled_pending {act : Act R} {rest left : List (Act R)} (next : s.handler = act :: rest)
    (leaves : act.next s = .ok left) : pending { act.apply s with handler := left ++ rest } = pending s := by
  unfold pending
  rw [next, List.filterMap_cons]
  cases posted : switching act <;> simp [posted, next_switching leaves]

/-- Processing a switch does not change what streaming comes to. -/
theorem processed_wanted {enabled : Bool} {rest : List Bool} (next : s.switches = enabled :: rest) :
    wanted { s with switches := rest, streamingEnabled := enabled } = wanted s := by
  unfold wanted pending
  rw [next, List.cons_append, List.getLast?_cons]
  rfl

end

/-! ### The automaton -/

/-- The switch that a state change is followed by. -/
def switchOf : Signal → Option Bool
  | .Entered .WaitingForMove => some false
  | .Entered .DrivingToPickup => some true
  | _ => none

theorem planning_unswitched {sigs : List Signal} (planned : ∀ sig ∈ sigs, sig.planning = true) :
    sigs.filterMap switchOf = [] := by
  rw [List.filterMap_eq_nil_iff]
  intro sig member
  have plans := planned sig member
  cases sig with
  | Entered s => cases s <;> first | rfl | cases plans
  | _ => rfl

/-- The way to the pickup is entered and left with the switch that belongs to
    it, or left by a cancel without one. -/
theorem advance_switches {ev : Event} {p p' : Phase} {sigs : List Signal} (moved : Advance ev p sigs p') :
    (sigs.filterMap switchOf = [] ∧ (p'.state = .DrivingToPickup ↔ p.state = .DrivingToPickup)) ∨
    (sigs.filterMap switchOf = [false] ∧ p'.state ≠ .DrivingToPickup) ∨
    (sigs.filterMap switchOf = [true] ∧ p'.state = .DrivingToPickup) ∨
    (ev = .Cancel ∧ sigs.filterMap switchOf = [] ∧ p'.state ≠ .DrivingToPickup) := by
  cases moved with
  | plan _ before after _ planned =>
    refine .inl ⟨planning_unswitched planned, ?_⟩
    constructor
    · intro driving
      rw [driving] at after
      cases after
    · intro driving
      rw [driving] at before
      cases before
  | failTrip ready _ | acceptTrip ready _ => rcases ready with state | state <;> simp [switchOf, state]
  | goToPickup _ state | failMove _ state | move _ state => simp [switchOf, state]
  | publishPose state | publishGoal state => simp [switchOf, state]
  | arrivePickup _ _ => exact .inr (.inl ⟨rfl, by simp⟩)
  | arriveDropoff state _ => simp [switchOf, state]
  | engagePickup _ _ => exact .inr (.inr (.inl ⟨rfl, rfl⟩))
  | engageTrip state _ => simp [switchOf, state]
  | cancel => exact .inr (.inr (.inr ⟨rfl, rfl, by simp⟩))
  | _ => exact .inl ⟨rfl, Iff.rfl⟩

/-! ### Steps -/

section
variable {R : Type}

theorem jobEvent_cancel {w : World R Int64} {job : Job R} (cancelled : jobEvent w job = .Cancel) :
    job = .CancelTrip := by
  cases job with
  | CancelTrip => rfl
  | Engaged seq =>
    simp only [jobEvent] at cancelled
    split at cancelled <;> simp at cancelled
  | Deliver delivery => cases delivery <;> simp [jobEvent] at cancelled
  | _ => simp [jobEvent] at cancelled

end

section
variable {R : Type} [Zero R] [Add R] [Sub R] [Mul R] [Div R] [NatCast R] [LT R] [DecidableLT R] [CMath R]
variable {D : MapData R} {T : TripTimings} {s s' : App R}

omit [Zero R] [Sub R] [LT R] [DecidableLT R] [CMath R] in
/-- The switches that a handler's callbacks post are those of its state changes. -/
theorem callbacks_switching {w : World R Int64} {job : Job R} {os : List (Output R Int64)}
    (told : job = .GetTripStatus → os = []) :
    (job.callbacks w os).filterMap switching = (signals os).filterMap switchOf := by
  have outputs : (os.flatMap callback).filterMap switching = (signals os).filterMap switchOf := by
    clear told
    induction os with
    | nil => rfl
    | cons o rest ih =>
      have own : (callback o).filterMap switching = (signalOf o).toList.filterMap switchOf := by
        cases o with
        | StateChange prev next => cases next <;> rfl
        | QueryResult asked result =>
          change (etaCallback asked result).filterMap switching = []
          unfold etaCallback
          split <;> rfl
        | EngageRequest engage => cases engage <;> rfl
        | _ => rfl
      rw [List.flatMap_cons, List.filterMap_append, own, ih, signals_cons, List.filterMap_append]
  cases job with
  | GetTripStatus =>
    rw [told rfl]
    rfl
  | _ => exact outputs

variable {past : History (App R) (Turn R) (Effect R)} {effects : List (Effect R)} {i : Turn R}

/-- A handler that is run switches streaming where it enters or leaves the way to
    the pickup, unless it is a cancel. -/
theorem ran_wanted {e : Env R} {job : Job R} {rest : List (Job R)} {w : World R Int64} {os : List (Output R Int64)}
    (run : Runs (Gateway.machine D T) past s) (free : s.handler = []) (next : s.strand = job :: rest)
    (ran : burst (Strand.machine D T) s.world (job.inputs D e) = .ok (w, os))
    (kept : ¬ (job = .CancelTrip ∧ s.world.ctrl.status.state = .DrivingToPickup))
    (streams : wanted s = true ↔ s.world.ctrl.status.state = .DrivingToPickup) :
    wanted { s with world := w, strand := rest, handler := job.callbacks w os } = true ↔
      w.ctrl.status.state = .DrivingToPickup := by
  have told : job = .GetTripStatus → os = [] := by
    rintro rfl
    cases ran
    rfl
  have posted : wanted { s with world := w, strand := rest, handler := job.callbacks w os } =
      ((signals os).filterMap switchOf).getLast?.getD (wanted s) := by
    refine wanted_posted ?_ rfl
    simp [pending, free, callbacks_switching told]
  have moved := job_advance (world_reachable run) ran
  rw [posted]
  rcases advance_switches moved with ⟨none, same⟩ | ⟨off, left⟩ | ⟨on, entered⟩ | ⟨cancelled, none, left⟩
  · rw [none]
    exact streams.trans same.symm
  · rw [off]
    exact ⟨by simp, fun driving => absurd driving left⟩
  · rw [on]
    exact ⟨fun _ => entered, by simp⟩
  · -- the cancel was elsewhere, where nothing is streamed
    have elsewhere : ¬ s.world.ctrl.status.state = .DrivingToPickup :=
      fun driving => kept ⟨jobEvent_cancel cancelled, driving⟩
    rw [none]
    exact ⟨fun on => absurd (streams.mp on) elsewhere, fun driving => absurd driving left⟩

/-- Only the bridge's own strand processes the switches. -/
theorem outside_switches (stepped : Gateway.step D T s i = .ok (s', effects)) (outside : i.Outside s)
    (other : i ≠ .Switch) : s'.switches = s.switches ∧ s'.streamingEnabled = s.streamingEnabled := by
  cases i with
  | Receive command =>
    cases stepped
    rw [if_neg outside]
    exact ⟨rfl, rfl⟩
  | Dispatch =>
    simp only [Gateway.step, show s.stream = [] from outside] at stepped
    cases stepped
    exact ⟨rfl, rfl⟩
  | Handler =>
    simp only [Gateway.step, show s.handler = [] from outside] at stepped
    cases stepped
    exact ⟨rfl, rfl⟩
  | Deliver _ | Returns =>
    cases stepped
    exact ⟨rfl, rfl⟩
  | ModeResponse seq success | EngageResponse seq code =>
    obtain ⟨_, _, rest⟩ := bind_ok stepped
    cases rest
    exact ⟨rfl, rfl⟩
  | Run e =>
    simp only [Gateway.step] at stepped
    split at stepped
    · rename_i job rest free next
      cases next.symm.trans (outside free)
    · cases stepped
      exact ⟨rfl, rfl⟩
  | Switch => exact absurd rfl other

/-- A step in which nobody abandons the way to the pickup keeps streaming to it. -/
theorem step_wanted (run : Runs (Gateway.machine D T) past s) (stepped : Gateway.step D T s i = .ok (s', effects))
    (kept : ¬ Abandons ⟨s, i, effects, s'⟩)
    (streams : wanted s = true ↔ s.world.ctrl.status.state = .DrivingToPickup) :
    wanted s' = true ↔ s'.world.ctrl.status.state = .DrivingToPickup := by
  by_cases switch : i = .Switch
  · subst switch
    simp only [Gateway.step] at stepped
    split at stepped <;> cases stepped
    · exact streams
    · rename_i enabled rest next
      rw [processed_wanted next]
      exact streams
  · cases step_cases stepped with
    | outside w jobs switches enabled outside _ ctrl _ =>
      obtain ⟨rfl, rfl⟩ := outside_switches stepped outside switch
      change wanted s = true ↔ w.ctrl.status.state = .DrivingToPickup
      rw [ctrl]
      exact streams
    | receive command _ => exact streams
    | dispatch act rest next left leaves =>
      have silent := ofCommand_switching (stream_ofCommand run act (by simp [next]))
      have unchanged : pending { act.apply s with stream := left ++ rest } = pending s := by
        simp [pending, silent]
      rw [wanted_unchanged unchanged (by simp)]
      simpa using streams
    | handle act rest next left leaves =>
      rw [wanted_unchanged (handled_pending next leaves) (by simp)]
      simpa using streams
    | run e job rest w os free next ran =>
      refine ran_wanted run free next ran ?_ streams
      rintro ⟨rfl, driving⟩
      exact kept ⟨by simp [started, free, next], driving⟩


/-- What streaming comes to is decided by the state as long as nobody abandons the
    way to the pickup. -/
theorem wanted_iff (run : Runs (Gateway.machine D T) past s) (kept : Along (fun _ m => ¬ Abandons m) past) :
    wanted s = true ↔ s.world.ctrl.status.state = .DrivingToPickup := by
  refine run.invariant_along (I := fun _ s => wanted s = true ↔ s.world.ctrl.status.state = .DrivingToPickup)
    (C := fun _ m => ¬ Abandons m) ?_ ?_ kept
  · rintro _ ⟨_, ⟨m, now, _, rfl⟩, rfl⟩
    have elsewhere : ∀ w : World R Int64, w.ctrl.status.state ≠ .DrivingToPickup →
        (wanted (initialApp w) = true ↔ w.ctrl.status.state = .DrivingToPickup) :=
      fun w left => iff_of_false (by simp [wanted, pending, initialApp]) left
    refine elsewhere _ ?_
    rcases phaseOf_initial (κ := Int64) m now with opening | opening
    · exact ne_of_eq_of_ne (congrArg Phase.state opening) (by simp)
    · exact ne_of_eq_of_ne (congrArg Phase.state opening) (by simp)
  · intro past s i effects s' earlier streams stepped kept
    exact step_wanted earlier stepped kept streams


/-- In every run in which no cancel is handled on the way to the pickup, the
    location is streamed only there. -/
theorem streams_to_pickup (run : Runs (Gateway.machine D T) past s) (kept : Along (fun _ m => ¬ Abandons m) past) :
    StreamsToPickup s := by
  intro processed enabled
  refine (wanted_iff run kept).mp ?_
  simp [wanted, processed, enabled]

end

section
attribute [local instance] streetMath

/-- The drive to the pickup on the street, with its switch processed. -/
theorem streams_to_pickup_on_street : ∃ past s, Runs (Gateway.machine street {}) past s ∧
    (pending s = [] ∧ s.streamingEnabled = true) ∧ Along (fun _ m => ¬ Abandons m) past ∧ StreamsToPickup s := by
  obtain ⟨past, s, run, switched⟩ := exists_run (M := Gateway.machine street {})
    (s := initialApp (initialWorld .fresh 0))
    (queryTurns 5 ++ pickupTurns 7 ++ [.Switch]) fresh_wired
    (fun past s => decide ((pending s = [] ∧ s.streamingEnabled = true) ∧ Along (fun _ m => ¬ Abandons m) past))
    (by decide +kernel)
  obtain ⟨on, kept⟩ := of_decide_eq_true switched
  exact ⟨past, s, run, on, kept, streams_to_pickup run kept⟩

/-- The same drive, and the trip is cancelled on the way: the location is streamed on. -/
theorem streaming_left_on : ∃ past s, Runs (Gateway.machine street {}) past s ∧
    s.world.ctrl.status.state = .Idle ∧ ¬ StreamsToPickup s := by
  obtain ⟨past, s, run, cancelled⟩ := exists_run (M := Gateway.machine street {})
    (s := initialApp (initialWorld .fresh 0))
    (queryTurns 5 ++ pickupTurns 7 ++ [.Switch] ++ commandTurns (.TripCancel vin 5) ++ [.Run (streetAt 24)])
    fresh_wired
    (fun _ s => decide (s.world.ctrl.status.state = .Idle ∧ pending s = [] ∧ s.streamingEnabled = true))
    (by decide +kernel)
  obtain ⟨idle, processed, enabled⟩ := of_decide_eq_true cancelled
  refine ⟨past, s, run, idle, fun streams => ?_⟩
  have driving := streams processed enabled
  rw [idle] at driving
  cases driving

end
end AutowareAgent.Streaming
