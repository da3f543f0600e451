import AutowareAgent.Answers
import AutowareAgent.Cancellation

/-!
The course of a trip as the gateway hears it. The strand's callbacks report the
quote, the arrival at the pickup with the acknowledgement of the trip, the
departure and the arrival at its end, and they report them in this order: what
was queued since the last cancel, with what the running handler still has to
report, is what the controller's phase calls for.
-/
namespace AutowareAgent.TripEvents
open AutowareAgent.Machines AutowareAgent.Lanes AutowareAgent.LaneCache AutowareAgent.Trips AutowareAgent.Strand
open AutowareAgent.Automaton AutowareAgent.Quotes AutowareAgent.Queries AutowareAgent.Gateway AutowareAgent.Reports
open AutowareAgent.Answers (effects_ran)

/-- What an event tells of the course of a trip. -/
inductive Line
  | Quote
  | Acknowledged
  | Arrived
  | Status (text : String)
  deriving DecidableEq, Repr

/-- A trip that takes its course. -/
def course : List Line :=
  [.Quote, .Acknowledged, .Arrived, .Status "ARRIVED_AT_PICKUP", .Status "IN_PROGRESS", .Arrived, .Status "COMPLETED"]

/-- How many lines of its course a trip has behind it. -/
def reached (p : Phase) : Nat :=
  match p.state with
  | .RoutesReady | .WaitingForPickupStart | .PublishingInitialPose | .WaitingLocalisation | .DrivingToPickup => 1
  | .Engaging => if p.forPickup then 1 else 4
  | .WaitingForMove => 4
  | .Running => 5
  | .Completed => 7
  | _ => 0

section
variable {R : Type}

/-- The line of a report. A cancellation is not one of the trip's own course. -/
def lineOf : Report R → Option Line
  | .Eta _ _ _ => some .Quote
  | .TripInitAck => some .Acknowledged
  | .Arrive => some .Arrived
  | .Status text => if text = "CANCELLED" then none else some (.Status text)
  | _ => none

/-- The line of an event that is put on the queue. -/
def effectLine : Effect R → Option Line
  | .Queued report _ => lineOf report
  | .Ran _ _ => none

/-- A cancel is handled. -/
def cancelled (m : Moment (App R) (Turn R) (Effect R)) : Bool :=
  m.outputs.any fun effect => match effect with
    | .Ran .CancelTrip _ => true
    | _ => false

/-- The lines that were put on the queue since the last cancel. -/
def told (past : History (App R) (Turn R) (Effect R)) : List Line :=
  (since cancelled past).reverse.flatMap fun m => m.outputs.filterMap effectLine

/-- The lines that were put on the queue. -/
def lines (past : History (App R) (Turn R) (Effect R)) : List Line :=
  past.reverse.flatMap fun m => m.outputs.filterMap effectLine

def startsTrip : Job R → Bool
  | .StartTrip => true
  | _ => false

/-- No cancel is handled while a trip that was quoted before it is still to be started. -/
def ClearCancel (m : Moment (App R) (Turn R) (Effect R)) : Prop :=
  started m = some .CancelTrip → ∀ job ∈ m.pre.strand, startsTrip job = false

instance (m : Moment (App R) (Turn R) (Effect R)) [DecidableEq R] : Decidable (ClearCancel m) :=
  inferInstanceAs (Decidable (_ → _))

/-! ### What is left to tell -/

/-- The line that an act still has to tell. -/
def leftLine : Act R → Option Line
  | .Make report | .Enqueue report _ => lineOf report
  | _ => none

def postsStart : Act R → Bool
  | .Post job => startsTrip job
  | _ => false

/-- The starts of trips that are on their way. -/
def starting (s : App R) : Nat := s.strand.countP startsTrip + s.handler.countP postsStart

/-- The states on the way to the pickup in which the leg is not engaged yet. -/
def early : TripState → Bool
  | .WaitingForPickupStart | .PublishingInitialPose | .WaitingLocalisation => true
  | _ => false

/-- What was told and what is left to tell take the course as far as the phase calls for. -/
structure InCourse (past : History (App R) (Turn R) (Effect R)) (s : App R) : Prop where
  lines : told past ++ s.handler.filterMap leftLine = course.take (reached (phaseOf s.world.ctrl))
  starts : starting s = 0 ∨ starting s = 1 ∧ s.world.ctrl.status.state = .RoutesReady
  leg : early s.world.ctrl.status.state = true → s.world.ctrl.engagingForPickup = true
  asked : querying s.world.ctrl.status.state = true → s.world.ctrl.queryCb.isSome = true

theorem told_cons (m : Moment (App R) (Turn R) (Effect R)) (past : History (App R) (Turn R) (Effect R)) :
    told (m :: past) = if cancelled m then [] else told past ++ m.outputs.filterMap effectLine := by
  unfold told
  cases first : cancelled m with
  | true => rw [since_cons_kind first]; rfl
  | false => rw [since_cons_other first]; simp

theorem told_quiet {m : Moment (App R) (Turn R) (Effect R)} {past : History (App R) (Turn R) (Effect R)}
    (quiet : ∀ job os, .Ran job os ∉ m.outputs) :
    told (m :: past) = told past ++ m.outputs.filterMap effectLine := by
  have other : cancelled m = false := by
    unfold cancelled
    rw [List.any_eq_false]
    intro effect member
    cases effect with
    | Ran job os => exact absurd member (quiet job os)
    | Queued report event => simp
  rw [told_cons, other]
  rfl

/-- An act tells its line, or leaves it to the next. -/
theorem act_lines {s : App R} {act : Act R} {left : List (Act R)} (leaves : act.next s = .ok left) :
    act.effects.filterMap effectLine ++ left.filterMap leftLine = [act].filterMap leftLine := by
  cases act with
  | Make report =>
    obtain ⟨event, _, rfl⟩ := map_ok leaves
    simp [Act.effects, leftLine, List.filterMap_cons]
  | _ =>
    cases leaves
    simp [Act.effects, effectLine, leftLine, List.filterMap_cons]

/-- What a command asks for tells of no trip's course. -/
theorem ofCommand_line {act : Act R} (command : ofCommand act = true) : act.effects.filterMap effectLine = [] := by
  cases act with
  | Enqueue report event =>
    cases report with
    | Status text =>
      have own : text = "CANCELLED" := by simpa [ofCommand, cancels] using command
      simp [Act.effects, effectLine, lineOf, own]
    | OrderUpdateLocationAck _ | TripCancelAck _ => rfl
    | _ => simp [ofCommand, cancels] at command
  | _ => rfl

end

/-! ### What a handler tells -/

section
variable {R : Type}

/-- What is told where the controller enters a state. -/
def stateLines : TripState → List Line
  | .WaitingForMove => [.Acknowledged, .Arrived, .Status "ARRIVED_AT_PICKUP"]
  | .Running => [.Status "IN_PROGRESS"]
  | .Completed => [.Arrived, .Status "COMPLETED"]
  | .Failed => [.Status "ERROR"]
  | _ => []

def signalLines : Signal → List Line
  | .Entered next => stateLines next
  | _ => []

def noticeLines : Notice R Int64 → List Line
  | .Changed _ next => stateLines next
  | .Answered _ result => if result.success then [.Quote] else []
  | .Returned _ => []

/-- A signal of a query tells of no course. -/
theorem planning_lines {sigs : List Signal} (planned : ∀ s ∈ sigs, s.planning = true) :
    sigs.flatMap signalLines = [] := by
  rw [List.flatMap_eq_nil_iff]
  intro s member
  have plan := planned s member
  cases s with
  | Entered next => cases next <;> first | rfl | cases plan
  | _ => rfl

theorem tripStateCallback_lines (next : TripState) :
    (tripStateCallback (R := R) next).filterMap leftLine = stateLines next ∧
      (tripStateCallback (R := R) next).countP postsStart = 0 := by
  cases next <;> exact ⟨rfl, rfl⟩

end

section
variable {R : Type} [Zero R] [Add R] [Sub R] [Mul R] [Div R] [NatCast R] [LT R] [DecidableLT R] [CMath R]
variable {os : List (Output R Int64)}

omit [Zero R] [Sub R] [LT R] [DecidableLT R] [CMath R] in
/-- The callbacks of some outputs tell what their notices tell, and start a trip for every quote. -/
theorem outputs_lines (os : List (Output R Int64)) :
    (os.flatMap callback).filterMap leftLine = (notices os).flatMap noticeLines ∧
      (os.flatMap callback).countP postsStart = ((notices os).flatMap noticeLines).count .Quote := by
  induction os with
  | nil => exact ⟨rfl, rfl⟩
  | cons o rest ih =>
    obtain ⟨lines, starts⟩ := ih
    have first : (callback o).filterMap leftLine = (noticeOf o).toList.flatMap noticeLines ∧
        (callback o).countP postsStart = ((noticeOf o).toList.flatMap noticeLines).count .Quote := by
      cases o with
      | StateChange prev next =>
        obtain ⟨same, none⟩ := tripStateCallback_lines (R := R) next
        refine ⟨same.trans (List.append_nil _).symm, none.trans ?_⟩
        cases next <;> rfl
      | QueryResult asked result =>
        cases success : result.success <;>
          simp [callback, etaCallback, noticeOf, noticeLines, success, leftLine, lineOf, postsStart, startsTrip]
      | _ => exact ⟨rfl, rfl⟩
    rw [List.flatMap_cons, List.filterMap_append, List.countP_append, notices_cons, List.flatMap_append,
      List.count_append, first.1, first.2, lines, starts]
    exact ⟨rfl, rfl⟩

omit [Zero R] [Sub R] [LT R] [DecidableLT R] [CMath R] in
theorem callbacks_lines {w : World R Int64} {job : Job R} (silent : job = .GetTripStatus → os = []) :
    (job.callbacks w os).filterMap leftLine = (notices os).flatMap noticeLines ∧
      (job.callbacks w os).countP postsStart = ((notices os).flatMap noticeLines).count .Quote := by
  cases job with
  | GetTripStatus =>
    rw [silent rfl]
    exact ⟨rfl, rfl⟩
  | _ => exact outputs_lines os

omit [Zero R] [Add R] [Sub R] [Mul R] [Div R] [NatCast R] [LT R] [DecidableLT R] [CMath R] in
/-- Where no quote is told the signals tell everything. -/
theorem notices_lines (unquoted : ∀ asked result, .Answered asked result ∈ notices os → result.success = false) :
    (notices os).flatMap noticeLines = (signals os).flatMap signalLines := by
  induction os with
  | nil => rfl
  | cons o rest ih =>
    rw [notices_cons] at unquoted
    have later := ih fun asked result member => unquoted asked result (List.mem_append_right _ member)
    have first : (noticeOf o).toList.flatMap noticeLines = (signalOf o).toList.flatMap signalLines := by
      cases o with
      | QueryResult asked result =>
        have no := unquoted asked result (List.mem_append_left _ (List.mem_singleton.mpr rfl))
        simp [noticeOf, signalOf, noticeLines, no]
      | EngageRequest engage => cases engage <;> rfl
      | _ => rfl
    rw [notices_cons, signals_cons, List.flatMap_append, List.flatMap_append, first, later]

end

/-! ### The course step by step -/

section
variable {R : Type} [Zero R] [Add R] [Sub R] [Mul R] [NatCast R] [LT R] [DecidableLT R] [CMath R]
variable {D : MapData R} {T : TripTimings} {i : Input R Int64} {p p' : Pipeline R Int64}
variable {told : List (Notice R Int64)}

/-- A trip is quoted where the second leg of a query ends, once, and that is how routes get ready. -/
theorem quote_progress (moved : Progress D T i p told p') :
    (p.state = .QueryReadingEta ∧ p'.state = .RoutesReady ∧ ∃ result : EtaQueryResult R, result.success = true ∧
      told = answered p.cb result ++ [.Changed .Idle .RoutesReady]) ∨
    (p'.state = .RoutesReady → p.state = .RoutesReady) ∧
      ∀ asked result, .Answered asked result ∈ told → result.success = false := by
  have silent : ∀ {told : List (Notice R Int64)} {asked result}, told = [] ∨ told = [.Returned false] →
      .Answered asked result ∈ told → result.success = false := by
    rintro told asked result (rfl | rfl) member <;> simp at member
  have refused : ∀ {cb : Option Int64} {r : EtaQueryResult R} {asked result}, r.success = false →
      .Answered asked result ∈ answered cb r → result.success = false := by
    intro cb r asked result no member
    cases cb with
    | none => simp [answered] at member
    | some cb =>
      simp only [answered, Option.map_some, Option.toList_some, List.mem_singleton, Notice.Answered.injEq] at member
      rw [member.2, no]
  cases moved with
  | endTrip d t state _ _ => exact .inl ⟨state, rfl, _, rfl, rfl⟩
  | quiet _ none => exact .inr ⟨id, fun _ _ => silent none⟩
  | refuse no => exact .inr ⟨id, fun _ _ member => refused no (by simpa using member)⟩
  | failOpen _ closed no =>
    refine .inr ⟨fun ready => ?_, fun _ _ member => refused no (by simpa using member)⟩
    rw [closed.state] at ready
    cases ready
  | fail _ closed no =>
    refine .inr ⟨fun ready => ?_, fun _ _ => refused no⟩
    rw [closed.state] at ready
    cases ready
  | cancel closed =>
    refine .inr ⟨fun ready => ?_, by simp⟩
    rw [closed.state] at ready
    cases ready
  | drive _ _ _ _ _ _ next _ _ accepted =>
    refine .inr ⟨fun ready => ?_, fun _ _ member => ?_⟩
    · obtain rfl := ready
      cases next
    · rcases accepted with rfl | rfl <;> simp at member
  | _ => exact .inr ⟨by simp, by simp⟩

/-- Who asks has a callback: as long as every request has one, every query that is under way does. -/
theorem asked_progress (moved : Progress D T i p told p')
    (given : ∀ e start goal cb, i = .Handle e (.QueryEta start goal cb) → cb.isSome = true)
    (asked : querying p.state = true → p.cb.isSome = true) : querying p'.state = true → p'.cb.isSome = true := by
  cases moved with
  | openQuery _ _ _ => exact fun _ => given _ _ _ _ rfl
  | cancel closed | failOpen _ closed _ | fail _ closed _ => simp [closed.state, querying]
  | initialised _ _ | endTrip _ _ _ _ _ | acceptTrip _ _ => simp [querying]
  | drive _ _ _ _ _ _ next _ _ _ => simp [querying_of_driving next]
  | publishPose state | localised state _ | publishGoal state | routeSet state _ | endPickup _ _ _ _ state _ _ _ _ =>
    exact fun _ => asked (by simp [state, querying])
  | _ => exact asked

end

/-- While no trip is under way the course has begun where the routes are ready. -/
theorem reached_planning {p : Phase} (before : planning p.state = true) :
    reached p = if p.state = .RoutesReady then 1 else 0 := by
  unfold reached
  cases state : p.state <;> rw [state] at before <;> first | rfl | cases before

theorem early_not_planning {s : TripState} (way : early s = true) : planning s = false := by
  cases s <;> first | rfl | cases way

/-- A move takes the course on by what it signals, but for a query that goes on. -/
theorem course_advance {ev : Event} {p p' : Phase} {sigs : List Signal} (moved : Advance ev p sigs p')
    (leg : early p.state = true → p.forPickup = true) (alive : p'.state ≠ .Failed) (kept : ev ≠ .Cancel)
    (ready : ev = .StartTrip → p.state = .RoutesReady) (ended : p'.state = .RoutesReady → p.state = .RoutesReady) :
    course.take (reached p) ++ sigs.flatMap signalLines = course.take (reached p') ∧
      (early p'.state = true → p'.forPickup = true) := by
  cases moved with
  | plan asked before after flag planned =>
    have elsewhere : p.state ≠ .RoutesReady := by
      rcases asked with ⟨_, idle⟩ | ⟨_, _, other⟩
      · simp [idle]
      · exact other
    rw [planning_lines planned, List.append_nil, reached_planning before, reached_planning after, if_neg elsewhere,
      if_neg (mt ended elsewhere)]
    refine ⟨rfl, fun way => ?_⟩
    rw [early_not_planning way] at after
    cases after
  | cancel => exact absurd rfl kept
  | failTrip _ _ | failMove _ _ => exact absurd rfl alive
  | quiet | message | refuse _ | requestMode _ | modeChanged | late _ => exact ⟨by simp [signalLines], leg⟩
  | routeState s => exact ⟨by simp [reached], leg⟩
  | refuseTrip => exact ⟨by simp [reached, signalLines, ready], fun _ => rfl⟩
  | acceptTrip _ _ => exact ⟨by simp [reached, signalLines, stateLines, ready], fun _ => rfl⟩
  | goToPickup _ state => exact ⟨by simp [reached, signalLines, stateLines, state], fun _ => leg (by simp [state, early])⟩
  | publishPose state => exact ⟨by simp [reached, signalLines, stateLines, state], fun _ => leg (by simp [state, early])⟩
  | publishGoal state =>
    have pickup := leg (by simp [state, early])
    exact ⟨by simp [reached, signalLines, stateLines, state, pickup], nofun⟩
  | move _ state => exact ⟨by simp [reached, signalLines, stateLines, state], nofun⟩
  | arrivePickup state _ | arriveDropoff state _ =>
    exact ⟨by simp [reached, signalLines, stateLines, state, course], nofun⟩
  | engagePickup state own | engageTrip state own =>
    exact ⟨by simp [reached, signalLines, stateLines, state, own, course], nofun⟩

/-- Ready routes stay ready until a trip is started or cancelled. -/
theorem ready_advance {ev : Event} {p p' : Phase} {sigs : List Signal} (moved : Advance ev p sigs p')
    (ready : p.state = .RoutesReady) (kept : ev ≠ .Cancel) (other : ev ≠ .StartTrip) : p'.state = .RoutesReady := by
  cases moved with
  | plan asked _ _ _ _ =>
    rcases asked with ⟨_, idle⟩ | ⟨_, _, elsewhere⟩
    · cases idle.symm.trans ready
    · exact absurd ready elsewhere
  | quiet | message | routeState _ | refuse _ | modeChanged | late _ | requestMode _ => exact ready
  | cancel => exact absurd rfl kept
  | refuseTrip | failTrip _ _ | acceptTrip _ _ => exact absurd rfl other
  | goToPickup _ state | failMove _ state | move _ state | publishPose state | publishGoal state
  | arrivePickup state _ | arriveDropoff state _ | engagePickup state _ | engageTrip state _ =>
    cases state.symm.trans ready

theorem cancel_advance {p p' : Phase} {sigs : List Signal} (moved : Advance .Cancel p sigs p') : sigs = [] := by
  cases moved with
  | cancel => rfl
  | plan asked _ _ _ _ => simp at asked
  | refuse asked | goToPickup asked _ | failMove asked _ | move asked _ => simp at asked

/-- The signals tell of no quote. -/
theorem signals_unquoted (sigs : List Signal) : (sigs.flatMap signalLines).count .Quote = 0 := by
  rw [List.count_eq_zero]
  intro member
  obtain ⟨s, _, quote⟩ := List.mem_flatMap.mp member
  cases s with
  | Entered next => cases next <;> simp [signalLines, stateLines] at quote
  | _ => cases quote

/-! ### Handlers and runs -/

section
variable {R : Type} [Zero R] [Add R] [Sub R] [Mul R] [Div R] [NatCast R] [LT R] [DecidableLT R] [CMath R]
variable {D : MapData R} {T : TripTimings} {w w' : World R Int64} {e : Env R} {job : Job R}
variable {os : List (Output R Int64)}

theorem single_progress {past : History (World R Int64) (Input R Int64) (Output R Int64)} {i : Input R Int64}
    (run : Runs (Strand.machine D T) past w) (ran : burst (Strand.machine D T) w [i] = .ok (w', os)) :
    Progress D T i (pipelineOf w.ctrl) (notices os) (pipelineOf w'.ctrl) := by
  obtain ⟨u, first, later, stepped, rest, rfl⟩ := burst_cons ran
  cases rest
  rw [List.append_nil]
  exact step_progress run stepped

/-- A handler on the strand is a step of the pipeline, and every query that it opens has a callback. -/
theorem job_progress (reach : Reachable (Strand.machine D T) w)
    (ran : burst (Strand.machine D T) w (job.inputs D e) = .ok (w', os)) :
    ∃ i : Input R Int64, Progress D T i (pipelineOf w.ctrl) (notices os) (pipelineOf w'.ctrl) ∧
      ∀ e start goal cb, i = .Handle e (.QueryEta start goal cb) → cb.isSome = true := by
  obtain ⟨past, run⟩ := reach
  cases job with
  | QueryEta requestId start goal =>
    refine ⟨_, single_progress run ran, fun e start goal cb same => ?_⟩
    cases same
    rfl
  | GetTripStatus =>
    cases ran
    exact ⟨.EngageResponse 0 0, .quiet trivial (.inl rfl), nofun⟩
  | Deliver delivery =>
    cases delivery with
    | TickTimer =>
      obtain ⟨past', u, run', ticked, set⟩ := tickTimer_cases run ran
      have same : pipelineOf u.ctrl = pipelineOf w.ctrl := by
        rcases set with ⟨_, rfl⟩ | ⟨gps, _, set⟩
        · rfl
        · rw [set]
          rfl
      exact ⟨_, same ▸ single_progress run' ticked, by simp⟩
    | _ => exact ⟨_, single_progress run ran, by simp⟩
  | _ => exact ⟨_, single_progress run ran, by simp⟩

omit [Zero R] [Add R] [Sub R] [Mul R] [Div R] [NatCast R] [LT R] [DecidableLT R] [CMath R] in
theorem startTrip_job (event : jobEvent w job = .StartTrip) : startsTrip job = true := by
  cases job with
  | Engaged seq => simp only [jobEvent] at event; split at event <;> cases event
  | Deliver delivery => cases delivery <;> cases event
  | _ => first | rfl | cases event

omit [Zero R] [Add R] [Sub R] [Mul R] [Div R] [NatCast R] [LT R] [DecidableLT R] [CMath R] in
theorem cancel_job (event : jobEvent w job = .Cancel) : job = .CancelTrip := by
  cases job with
  | Engaged seq => simp only [jobEvent] at event; split at event <;> cases event
  | Deliver delivery => cases delivery <;> cases event
  | _ => first | rfl | cases event

/-- A cancel that finds no trip that is still to be started begins the course again. -/
theorem cancel_run {s : App R} {rest : List (Job R)} {past : History (App R) (Turn R) (Effect R)}
    (run : Runs (Gateway.machine D T) past s) (next : s.strand = .CancelTrip :: rest)
    (ran : burst (Strand.machine D T) s.world (Job.CancelTrip.inputs D e) = .ok (w', os))
    (clear : ∀ job ∈ s.strand, startsTrip job = false) :
    InCourse (⟨s, .Run e, [.Ran .CancelTrip os],
        { s with world := w', strand := rest, handler := Job.CancelTrip.callbacks w' os }⟩ :: past)
      { s with world := w', strand := rest, handler := Job.CancelTrip.callbacks w' os } := by
  have reach := world_reachable run
  have moved := job_advance reach ran
  obtain ⟨i, progress, _⟩ := job_progress reach ran
  have silent : (.CancelTrip : Job R) = .GetTripStatus → os = [] := by
    intro impossible
    cases impossible
  obtain ⟨toldLines, posted⟩ := callbacks_lines (w := w') silent
  have closed := Cancellation.advance_cancel moved
  have unquoted := (quote_progress progress).resolve_left fun quote => by
    cases quote.2.1.symm.trans (congrArg Phase.state closed)
  rw [notices_lines unquoted.2, cancel_advance moved] at toldLines posted
  have none : rest.countP startsTrip = 0 := by
    rw [List.countP_eq_zero]
    intro job member
    simp [clear job (by simp [next, member])]
  refine ⟨?_, .inl ?_, ?_, ?_⟩
  · rw [told_cons, toldLines, closed]
    rfl
  · rw [starting, none, posted]
    rfl
  · rw [show w'.ctrl.status.state = .Idle from congrArg Phase.state closed]
    intro impossible
    cases impossible
  · rw [show w'.ctrl.status.state = .Idle from congrArg Phase.state closed]
    intro impossible
    cases impossible

/-- Any other handler takes the course on by what its callbacks tell. -/
theorem course_run {s : App R} {rest : List (Job R)} {past : History (App R) (Turn R) (Effect R)}
    (run : Runs (Gateway.machine D T) past s) (inCourse : InCourse past s) (free : s.handler = [])
    (next : s.strand = job :: rest) (ran : burst (Strand.machine D T) s.world (job.inputs D e) = .ok (w', os))
    (other : job ≠ .CancelTrip) :
    InCourse (⟨s, .Run e, [.Ran job os], { s with world := w', strand := rest, handler := job.callbacks w' os }⟩ :: past)
      { s with world := w', strand := rest, handler := job.callbacks w' os } := by
  obtain ⟨lines, starts, leg, asked⟩ := inCourse
  have reach := world_reachable run
  obtain ⟨later, run'⟩ := reachable_leads reach (leads_burst ran)
  have moved := job_advance reach ran
  obtain ⟨i, progress, given⟩ := job_progress reach ran
  have silent : job = .GetTripStatus → os = [] := by
    rintro rfl
    cases ran
    rfl
  obtain ⟨toldLines, posted⟩ := callbacks_lines (w := w') silent
  rw [free] at lines
  have waiting : starting s = (if startsTrip job then 1 else 0) + rest.countP startsTrip := by
    rw [starting, next, free, List.countP_cons]
    simp [Nat.add_comm]
  have quiet : told (⟨s, .Run e, [.Ran job os], ⟨w', rest, job.callbacks w' os, s.stream, s.activeTripId,
      s.currentRequestId, s.switches, s.streamingEnabled, s.etaAdapter⟩⟩ :: past) = told past := by
    have uncancelled : ∀ job : Job R, job ≠ .CancelTrip → ∀ s', cancelled ⟨s, .Run e, [.Ran job os], s'⟩ = false := by
      intro job other s'
      cases job <;> first | rfl | exact absurd rfl other
    rw [told_cons, uncancelled job other]
    exact List.append_nil _
  have startsReady : jobEvent s.world job = .StartTrip → s.world.ctrl.status.state = .RoutesReady := by
    intro event
    rw [startTrip_job event] at waiting
    rcases starts with none | ⟨_, ready⟩
    · simp at waiting
      omega
    · exact ready
  have kept : jobEvent s.world job ≠ .Cancel := fun event => other (cancel_job event)
  have asked' := asked_progress progress given asked
  rcases quote_progress progress with ⟨reading, ready, result, yes, quote⟩ | ⟨ended, unquoted⟩
  · have reading : s.world.ctrl.status.state = .QueryReadingEta := reading
    have ready : w'.ctrl.status.state = .RoutesReady := ready
    have quoted : (notices os).flatMap noticeLines = [.Quote] := by
      obtain ⟨cb, waits⟩ := Option.isSome_iff_exists.mp (asked (by simp [reading, querying]))
      have waits : (pipelineOf s.world.ctrl).cb = some cb := waits
      rw [quote, waits]
      simp [answered, noticeLines, yes, stateLines]
    have none : starting s = 0 := starts.resolve_right fun started => by
      cases reading.symm.trans started.2
    have before : reached (phaseOf s.world.ctrl) = 0 := by simp [reached, phaseOf, reading]
    have after : reached (phaseOf w'.ctrl) = 1 := by simp [reached, phaseOf, ready]
    refine ⟨?_, .inr ⟨?_, ready⟩, ?_, asked'⟩
    · rw [before] at lines
      rw [quiet, toldLines, quoted, after, (List.append_eq_nil_iff.mp lines).1]
      rfl
    · rw [starting, posted, quoted]
      simp only [List.count_singleton_self]
      omega
    · rw [ready]
      intro impossible
      cases impossible
  · rw [notices_lines unquoted] at toldLines posted
    rw [signals_unquoted] at posted
    obtain ⟨further, leg'⟩ := course_advance moved leg (never_failed run').1 kept startsReady ended
    refine ⟨?_, ?_, leg', asked'⟩
    · rw [quiet, toldLines, ← further, ← lines]
      simp
    · rw [starting, posted]
      simp only [Nat.add_zero]
      by_cases own : startsTrip job = true
      · rw [if_pos own] at waiting
        refine .inl ?_
        omega
      · rw [if_neg own, Nat.zero_add] at waiting
        refine starts.imp (fun none => ?_) fun started => ⟨?_, ?_⟩
        · omega
        · have one := started.1
          omega
        · exact ready_advance moved started.2 kept fun event => own (startTrip_job event)

/-- What was told and what is left to tell take the course as far as the phase
    calls for, in every run whose cancels find no trip that is still to be started. -/
theorem inCourse_run {s : App R} {past : History (App R) (Turn R) (Effect R)} (run : Runs (Gateway.machine D T) past s)
    (clear : Along (fun _ m => ClearCancel m) past) : InCourse past s := by
  refine run.invariant_along (I := InCourse) (C := fun _ m => ClearCancel m) ?_ ?_ clear
  · rintro _ ⟨w, ⟨m, now, _, rfl⟩, rfl⟩
    have first : ∀ p : Phase, p = ⟨.Idle, true, none, false⟩ ∨ p = ⟨.InitializingInMap, true, none, false⟩ →
        reached p = 0 ∧ early p.state = false ∧ querying p.state = false := by
      rintro p (rfl | rfl) <;> exact ⟨rfl, rfl, rfl⟩
    obtain ⟨none, before, quiet⟩ := first _ (phaseOf_initial m now)
    refine ⟨(congrArg (fun n => course.take n) none).symm, .inl rfl, fun way => ?_, fun query => ?_⟩
    · cases before.symm.trans way
    · cases quiet.symm.trans query
  · intro past s i effects s' earlier inCourse stepped clear
    have whole := inCourse
    obtain ⟨lines, starts, leg, asked⟩ := inCourse
    cases step_cases stepped with
    | outside w jobs switches enabled _ _ ctrl posted =>
      have none : jobs.countP startsTrip = 0 := by
        rw [List.countP_eq_zero]
        intro job member
        have outside := posted job member
        cases job <;> simp_all [startsTrip, Job.fromOutside]
      refine ⟨?_, ?_, ?_, ?_⟩
      · rw [told_quiet (by simp)]
        simpa [ctrl] using lines
      · simpa [starting, none, ctrl] using starts
      · simpa [ctrl] using leg
      · simpa [ctrl] using asked
    | receive command free =>
      rw [← List.append_nil (told past)] at lines
      exact ⟨by rw [told_quiet (by simp)]; exact lines, starts, leg, asked⟩
    | dispatch act rest next =>
      have command := stream_ofCommand earlier act (by simp [next])
      have posts : (act.apply s).strand.countP startsTrip = s.strand.countP startsTrip := by
        cases act with
        | Post job => cases job <;> simp_all [Act.apply, startsTrip, ofCommand]
        | _ => rfl
      refine ⟨?_, ?_, ?_, ?_⟩
      · rw [told_quiet (fun _ _ => effects_ran), ofCommand_line command]
        simpa using lines
      · simpa [starting, posts] using starts
      · simpa using leg
      · simpa using asked
    | handle act rest next left leaves =>
      rw [next] at lines
      have posts : (act.apply s).strand.countP startsTrip + (left ++ rest).countP postsStart = starting s := by
        rw [starting, next]
        rcases next_cases leaves with ⟨report, event, rfl, _, rfl⟩ | ⟨other, rfl⟩
        · simp [Act.apply, postsStart]
        cases act with
        | Make report => exact absurd rfl (other report)
        | Post job =>
          cases own : startsTrip job <;> simp [Act.apply, postsStart, own]
          omega
        | _ => simp [Act.apply, postsStart]
      refine ⟨?_, ?_, ?_, ?_⟩
      · rw [told_quiet (fun _ _ => effects_ran), List.append_assoc, List.filterMap_append,
          ← List.append_assoc _ _ (rest.filterMap _), act_lines leaves, ← List.filterMap_append]
        simpa using lines
      · rw [starting, posts]
        simpa using starts
      · simpa using leg
      · simpa using asked
    | run e job rest w os free next ran =>
      by_cases cancel : job = .CancelTrip
      · subst cancel
        exact cancel_run earlier next ran (clear (by simp [started, free, next]))
      · exact course_run earlier whole free next ran cancel

theorem told_begun {s : App R} {past : History (App R) (Turn R) (Effect R)} (run : Runs (Gateway.machine D T) past s)
    (clear : Along (fun _ m => ClearCancel m) past) : told past <+: course := by
  have lines := (inCourse_run run clear).lines
  have left : told past <+: told past ++ s.handler.filterMap leftLine := List.prefix_append _ _
  rw [lines] at left
  exact left.trans (List.take_prefix _ _)

/-- In every run whose cancels find no trip that is still to be started, what was
    put on the queue since the last cancel is a beginning of the course of a
    trip, and as soon as the running handler has reported everything it is the
    one that the controller's phase calls for. -/
theorem events_in_order {s : App R} {past : History (App R) (Turn R) (Effect R)}
    (run : Runs (Gateway.machine D T) past s) (clear : Along (fun _ m => ClearCancel m) past) :
    told past <+: course ∧ (s.handler = [] → told past = course.take (reached (phaseOf s.world.ctrl))) := by
  refine ⟨told_begun run clear, fun free => ?_⟩
  have lines := (inCourse_run run clear).lines
  rw [← lines, free]
  simp

/-! ### The whole queue -/

end

section
attribute [local instance] streetMath

/-- A trip that is driven to its end. -/
theorem events_in_order_on_street : ∃ past s, Runs (Gateway.machine street {}) past s ∧ s.handler = [] ∧
    s.world.ctrl.status.state = .Completed ∧ told past <+: course ∧
    (s.handler = [] → told past = course.take (reached (phaseOf s.world.ctrl))) := by
  obtain ⟨past, s, run, done⟩ := exists_run (M := Gateway.machine street {})
    (s := initialApp (initialWorld .fresh 0)) (queryTurns 5 ++ pickupTurns 7 ++ dropoffTurns 7) fresh_wired
    (fun past s => decide (s.handler = [] ∧ s.world.ctrl.status.state = .Completed ∧
      Along (fun _ m => ClearCancel m) past)) (by decide +kernel)
  obtain ⟨free, completed, clear⟩ := of_decide_eq_true done
  exact ⟨past, s, run, free, completed, events_in_order run clear⟩

end
end AutowareAgent.TripEvents
