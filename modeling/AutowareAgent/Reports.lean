import AutowareAgent.Gateway
import AutowareAgent.Quotes

/-!
What the application reports about a trip, and why. A report of the trip comes
from a state change of the controller, and the automaton says which moves make
one: an arrival, or the acknowledgement that starts the trip leg. No trip fails,
so none is reported as an error.
-/
namespace AutowareAgent.Reports
open AutowareAgent.Machines AutowareAgent.Lanes AutowareAgent.LaneCache AutowareAgent.Trips AutowareAgent.Strand
open AutowareAgent.Automaton AutowareAgent.Quotes AutowareAgent.Gateway

/-! ### Reports and acts -/

section
variable {R : Type}

/-- A report that carries the active trip's identifier. -/
def namesTrip : Report R → Bool
  | .Status _ | .Arrive => true
  | _ => false

/-- The report of a cancelled trip. -/
def cancels : Report R → Bool
  | .Status status => status = "CANCELLED"
  | _ => false

/-- An act that a callback may leave to do. -/
def ofCallback : Act R → Bool
  | .Make report | .Enqueue report _ => !cancels report
  | .Post .StartTrip | .SetStreaming _ => true
  | _ => false

/-- An act that a command may leave to do. -/
def ofCommand : Act R → Bool
  | .SetActiveTripId _ | .SetRequestId _ => true
  | .Post (.QueryEta _ _ _) | .Post (.HandleMoveCommand _) | .Post .CancelTrip | .Post .GetTripStatus => true
  | .Make (.OrderUpdateLocationAck _) | .Make (.TripCancelAck _) => true
  | .Enqueue (.OrderUpdateLocationAck _) _ | .Enqueue (.TripCancelAck _) _ => true
  | .Make report | .Enqueue report _ => cancels report
  | _ => false

theorem ofCommand_made {report : Report R} (event : VehicleEvent R) (left : ofCommand (.Make report) = true) :
    ofCommand (.Enqueue report event) = true := by
  cases report <;> exact left

theorem dispatch_ofCommand {command : GatewayCommand R} {act : Act R} (left : act ∈ dispatch command) :
    ofCommand act = true := by
  unfold dispatch at left
  split at left
  · cases left
  · cases command <;> simp at left
    all_goals rcases left with rfl | rfl | rfl
    all_goals rfl

/-- The act that the stream's thread does. -/
def dispatched (m : Moment (App R) (Turn R) (Effect R)) : Option (Act R) :=
  match m.input with
  | .Dispatch => m.pre.stream.head?
  | _ => none

/-- The act that the running handler does. -/
def handled (m : Moment (App R) (Turn R) (Effect R)) : Option (Act R) :=
  match m.input with
  | .Handler => m.pre.handler.head?
  | _ => none

/-- The handler that the strand takes next. -/
def started (m : Moment (App R) (Turn R) (Effect R)) : Option (Job R) :=
  match m.input, m.pre.handler with
  | .Run _, [] => m.pre.strand.head?
  | _, _ => none

/-- The events put on the queue, in their order. -/
def queued (past : History (App R) (Turn R) (Effect R)) : List (VehicleEvent R) :=
  past.reverse.flatMap fun m => m.outputs.filterMap fun effect => match effect with
    | .Queued _ event => some event
    | .Ran _ _ => none

theorem threads_outside {s s' : App R} {i : Turn R} {effects : List (Effect R)} (outside : i.Outside s) :
    dispatched ⟨s, i, effects, s'⟩ = none ∧ handled ⟨s, i, effects, s'⟩ = none := by
  cases i <;> simp_all [dispatched, handled, Turn.Outside]

/-- The event that an act of a thread puts on the queue, and its report. -/
theorem mem_effects {act : Act R} {report : Report R} {event : VehicleEvent R}
    (queued : .Queued report event ∈ act.effects) : act = .Enqueue report event := by
  cases act <;> simp_all [Act.effects]

/-- An act leaves its thread the event that it makes up, or nothing. -/
theorem next_cases {s : App R} {act : Act R} {left : List (Act R)} (leaves : act.next s = .ok left) :
    (∃ report event, act = .Make report ∧ report.event s = .ok event ∧ left = [.Enqueue report event]) ∨
      (∀ report, act ≠ .Make report) ∧ left = [] := by
  cases act with
  | Make report =>
    obtain ⟨event, made, rfl⟩ := map_ok leaves
    exact .inl ⟨report, event, rfl, made, rfl⟩
  | _ =>
    cases leaves
    exact .inr ⟨by simp, rfl⟩

/-- An act can be done, unless it reads through the adapter that is gone. -/
theorem next_ok {s : App R} {act : Act R}
    (alive : ∀ asked time fare, act = .Make (.Eta asked time fare) → s.etaAdapter = true) :
    ∃ left, act.next s = .ok left := by
  cases act with
  | Make report =>
    cases report with
    | Eta asked time fare => simp [Act.next, Report.event, getEta, alive asked time fare rfl, Except.map]
    | _ => exact ⟨_, rfl⟩
  | _ => exact ⟨_, rfl⟩

theorem mem_next {s : App R} {act a : Act R} {left : List (Act R)} (leaves : act.next s = .ok left)
    (member : a ∈ left) :
    ∃ report event, act = .Make report ∧ report.event s = .ok event ∧ a = .Enqueue report event := by
  rcases next_cases leaves with ⟨report, event, own, made, rfl⟩ | ⟨_, rfl⟩
  · exact ⟨report, event, own, made, List.mem_singleton.mp member⟩
  · cases member

/-- A report of the trip is made where the controller waits for a move, is under
    way on the trip leg, has completed it or has failed. -/
theorem tripStateCallback_makes {next : TripState} {report : Report R}
    (made : .Make report ∈ tripStateCallback next) : next ∈ [.WaitingForMove, .Running, .Completed, .Failed] := by
  cases next <;> simp_all [tripStateCallback]

theorem tripStateCallback_ofCallback {next : TripState} {act : Act R} (left : act ∈ tripStateCallback next) :
    ofCallback act = true := by
  cases next <;> simp [tripStateCallback] at left
  all_goals rcases left with rfl | rfl | rfl | rfl
  all_goals rfl

end

/-! ### Moves that are reported -/

/-- The moves that reports of the trip come from. -/
def Reporting (ev : Event) (p : Phase) : Prop :=
  ev = .Tick ∧ (p.state = .DrivingToPickup ∨ p.state = .Running) ∧ p.route = some .Arrived ∨
  ev = .Acknowledge ∧ p.state = .Engaging ∧ p.forPickup = false

instance (ev : Event) (p : Phase) : Decidable (Reporting ev p) := inferInstanceAs (Decidable (_ ∨ _))

theorem advance_reports {ev : Event} {p p' : Phase} {sigs : List Signal} {next : TripState}
    (moved : Advance ev p sigs p') (entered : .Entered next ∈ sigs)
    (reported : next ∈ [.WaitingForMove, .Running, .Completed, .Failed]) : Reporting ev p ∨ p'.state = .Failed := by
  cases moved with
  | plan _ _ _ _ planned =>
    have planning := planned _ entered
    simp only [List.mem_cons, List.not_mem_nil, or_false] at reported
    rcases reported with rfl | rfl | rfl | rfl <;> cases planning
  | arrivePickup driving arrived => exact .inl (.inl ⟨rfl, .inl driving, arrived⟩)
  | arriveDropoff driving arrived => exact .inl (.inl ⟨rfl, .inr driving, arrived⟩)
  | engageTrip engaging leg => exact .inl (.inr ⟨rfl, engaging, leg⟩)
  | failTrip _ _ | failMove _ _ => exact .inr rfl
  | _ => simp_all

/-! ### Handlers on the strand -/

section
variable {R : Type}

/-- What a posted handler is to the automaton. -/
def jobEvent (w : World R Int64) : Job R → Event
  | .QueryEta _ _ _ => .Query
  | .StartTrip => .StartTrip
  | .HandleMoveCommand _ => .HandleMove
  | .CancelTrip => .Cancel
  | .GetTripStatus => .Message
  | .Engaged seq => if seq ∈ w.acks then .Acknowledge else .Message
  | .Deliver .TickTimer => .Tick
  | .Deliver (.RouteState state) => .RouteState state
  | .Deliver _ => .Message

end

section
variable {R : Type} [Zero R] [Add R] [Sub R] [Mul R] [Div R] [NatCast R] [LT R] [DecidableLT R] [CMath R]
variable {D : MapData R} {T : TripTimings} {w w' : World R Int64} {e : Env R} {job : Job R}
variable {os : List (Output R Int64)}

/-- A handler of one input is a move of the automaton. -/
theorem single_advance {past : History (World R Int64) (Input R Int64) (Output R Int64)} {i : Input R Int64}
    (run : Runs (Strand.machine D T) past w) (ran : burst (Strand.machine D T) w [i] = .ok (w', os)) :
    Advance (eventOf w i) (phaseOf w.ctrl) (signals os) (phaseOf w'.ctrl) := by
  obtain ⟨u, first, later, stepped, rest, rfl⟩ := burst_cons ran
  cases rest
  rw [List.append_nil]
  exact step_advance run stepped

/-- The timer's handler ticks, after it has set the position where the pose is known. -/
theorem tickTimer_cases {past : History (World R Int64) (Input R Int64) (Output R Int64)}
    (run : Runs (Strand.machine D T) past w)
    (ran : burst (Strand.machine D T) w (Job.inputs D e (.Deliver .TickTimer)) = .ok (w', os)) :
    ∃ past' u, Runs (Strand.machine D T) past' u ∧ burst (Strand.machine D T) u [.Handle e .Tick] = .ok (w', os) ∧
      (getCurrentVehiclePose D e.tf = none ∧ u = w ∨
        ∃ gps, getCurrentVehiclePose D e.tf = some gps ∧ u.ctrl = (w.ctrl.setCurrentGps gps).settled) := by
  simp only [Job.inputs] at ran
  cases pose : getCurrentVehiclePose D e.tf with
  | none =>
    rw [pose] at ran
    exact ⟨past, w, run, ran, .inl ⟨rfl, rfl⟩⟩
  | some gps =>
    rw [pose] at ran
    obtain ⟨u, first, later, stepped, rest, rfl⟩ := burst_cons ran
    obtain ⟨c, applied, rfl, ended⟩ := handle_cases stepped
    cases applied
    have quiet : (w.ctrl.setCurrentGps gps).out = [] := out_nil run
    rw [quiet, List.nil_append]
    refine ⟨_, u, run.step stepped, rest, .inr ⟨gps, rfl, ?_⟩⟩
    rw [ended]
    split <;> rfl

/-- A handler on the strand is a move of the automaton, the timer's a tick. -/
theorem job_advance (reach : Reachable (Strand.machine D T) w)
    (ran : burst (Strand.machine D T) w (job.inputs D e) = .ok (w', os)) :
    Advance (jobEvent w job) (phaseOf w.ctrl) (signals os) (phaseOf w'.ctrl) := by
  obtain ⟨past, run⟩ := reach
  cases job with
  | GetTripStatus =>
    cases ran
    exact .message
  | Deliver delivery =>
    cases delivery with
    | TickTimer =>
      obtain ⟨past', u, run', ticked, set⟩ := tickTimer_cases run ran
      have same : phaseOf u.ctrl = phaseOf w.ctrl := by
        rcases set with ⟨_, rfl⟩ | ⟨gps, _, set⟩
        · rfl
        · rw [set]
          rfl
      rw [← same]
      exact single_advance run' ticked
    | _ => exact single_advance run ran
  | _ => exact single_advance run ran

omit [Zero R] [Sub R] [LT R] [DecidableLT R] [CMath R] in
/-- What a callback leaves to do comes from a state change, from a quote, or is
    the location that was asked for. -/
theorem mem_callbacks {act : Act R} (left : act ∈ job.callbacks w os) :
    (∃ next, .Entered next ∈ signals os ∧ act ∈ tripStateCallback next) ∨
    (∃ asked result, .QueryResult asked result ∈ os ∧ act ∈ etaCallback asked result) ∨
    ∃ position, act = .Make (.Location position) := by
  have outputs : act ∈ os.flatMap callback → (∃ next, .Entered next ∈ signals os ∧ act ∈ tripStateCallback next) ∨
      (∃ asked result, .QueryResult asked result ∈ os ∧ act ∈ etaCallback asked result) ∨
      ∃ position, act = .Make (.Location position) := by
    intro called
    obtain ⟨o, member, left⟩ := List.mem_flatMap.mp called
    cases o with
    | StateChange _ next => exact .inl ⟨next, mem_signals member rfl, left⟩
    | QueryResult asked result => exact .inr (.inl ⟨asked, result, member, left⟩)
    | _ => cases left
  cases job with
  | GetTripStatus => exact .inr (.inr ⟨_, List.mem_singleton.mp left⟩)
  | _ => exact outputs left

omit [Zero R] [Sub R] [LT R] [DecidableLT R] [CMath R] in
theorem mem_etaCallback {asked : Int64} {result : EtaQueryResult R} {act : Act R}
    (left : act ∈ etaCallback asked result) :
    (∃ time fare, act = .Make (.Eta asked time fare)) ∨ act = .Post .StartTrip := by
  unfold etaCallback at left
  split at left
  · rcases List.mem_pair.mp left with rfl | rfl
    · exact .inl ⟨_, _, rfl⟩
    · exact .inr rfl
  · cases left

omit [Zero R] [Sub R] [LT R] [DecidableLT R] [CMath R] in
theorem callbacks_ofCallback {act : Act R} (left : act ∈ job.callbacks w os) : ofCallback act = true := by
  rcases mem_callbacks left with ⟨next, _, left⟩ | ⟨asked, result, _, left⟩ | ⟨_, rfl⟩
  · exact tripStateCallback_ofCallback left
  · rcases mem_etaCallback left with ⟨_, _, rfl⟩ | rfl <;> rfl
  · rfl

omit [Zero R] [Sub R] [LT R] [DecidableLT R] [CMath R] in
/-- The callbacks make events up, they do not carry any. -/
theorem callbacks_enqueue {report : Report R} {event : VehicleEvent R} :
    .Enqueue report event ∉ job.callbacks w os := by
  intro left
  rcases mem_callbacks left with ⟨next, _, left⟩ | ⟨asked, result, _, left⟩ | ⟨_, left⟩
  · cases next <;> simp [tripStateCallback] at left
  · rcases mem_etaCallback left with ⟨_, _, left⟩ | left <;> cases left
  · cases left

/-- A handler whose callbacks report about the trip is a move that is reported. -/
theorem job_reports (reach : Reachable (Strand.machine D T) w)
    (ran : burst (Strand.machine D T) w (job.inputs D e) = .ok (w', os)) {report : Report R}
    (made : .Make report ∈ job.callbacks w' os) (names : namesTrip report = true) :
    Reporting (jobEvent w job) (phaseOf w.ctrl) := by
  rcases mem_callbacks made with ⟨next, entered, made⟩ | ⟨asked, result, _, made⟩ | ⟨_, made⟩
  · have moved := job_advance reach ran
    rcases advance_reports moved entered (tripStateCallback_makes made) with reporting | failed
    · exact reporting
    · obtain ⟨past, run⟩ := reachable_leads reach (leads_burst ran)
      exact absurd failed (never_failed run).1
  · rcases mem_etaCallback made with ⟨_, _, made⟩ | made <;> cases made
    cases names
  · cases made
    cases names

/-! ### The running handler -/

/-- The running handler has only callbacks left to do. -/
theorem handler_ofCallback {past : History (App R) (Turn R) (Effect R)} {s : App R}
    (run : Runs (Gateway.machine D T) past s) : ∀ act ∈ s.handler, ofCallback act = true := by
  refine run.invariant (I := fun _ s => ∀ act ∈ s.handler, ofCallback act = true) ?_ ?_
  · rintro _ ⟨w, _, rfl⟩ act left
    cases left
  · intro past s i effects s' _ callbacks stepped a left
    cases step_cases stepped with
    | outside _ _ _ _ _ _ _ _ | receive _ _ => exact callbacks a left
    | dispatch act rest _ => exact callbacks a (by simpa using left)
    | run _ _ _ _ _ _ _ _ => exact callbacks_ofCallback left
    | handle act rest next made leaves =>
      rw [next] at callbacks
      rcases List.mem_append.mp left with new | old
      · obtain ⟨report, _, rfl, _, rfl⟩ := mem_next leaves new
        exact callbacks (.Make report) List.mem_cons_self
      · exact callbacks a (List.mem_cons_of_mem _ old)

/-- The stream's thread has only what a command asks for left to do. -/
theorem stream_ofCommand {past : History (App R) (Turn R) (Effect R)} {s : App R}
    (run : Runs (Gateway.machine D T) past s) : ∀ act ∈ s.stream, ofCommand act = true := by
  refine run.invariant (I := fun _ s => ∀ act ∈ s.stream, ofCommand act = true) ?_ ?_
  · rintro _ ⟨w, _, rfl⟩ act left
    cases left
  · intro past s i effects s' _ commands stepped a left
    cases step_cases stepped with
    | outside _ _ _ _ _ _ _ _ | run _ _ _ _ _ _ _ _ => exact commands a left
    | handle act rest _ => exact commands a (by simpa using left)
    | receive command _ => exact dispatch_ofCommand left
    | dispatch act rest next made leaves =>
      rw [next] at commands
      rcases List.mem_append.mp left with new | old
      · obtain ⟨report, _, rfl, _, rfl⟩ := mem_next leaves new
        exact ofCommand_made _ (commands _ List.mem_cons_self)
      · exact commands a (List.mem_cons_of_mem _ old)

/-- An event comes from what a command asks for, or from what the running handler has left to do. -/
theorem queued_cases {past : History (App R) (Turn R) (Effect R)} {s s' : App R} {i : Turn R}
    {effects : List (Effect R)} {report : Report R} {event : VehicleEvent R} (run : Runs (Gateway.machine D T) past s)
    (stepped : Gateway.step D T s i = .ok (s', effects)) (queued : .Queued report event ∈ effects) :
    .Enqueue report event ∈ s.stream ∧ ofCommand (R := R) (.Enqueue report event) = true ∨
      .Enqueue report event ∈ s.handler := by
  cases step_cases stepped with
  | outside _ _ _ _ _ _ _ _ | receive _ _ => cases queued
  | run _ _ _ _ _ _ _ _ => simp at queued
  | dispatch act rest next =>
    obtain rfl := mem_effects queued
    have first : .Enqueue report event ∈ s.stream := by simp [next]
    exact .inl ⟨first, stream_ofCommand run _ first⟩
  | handle act rest next =>
    obtain rfl := mem_effects queued
    exact .inr (by simp [next])

end
end AutowareAgent.Reports
