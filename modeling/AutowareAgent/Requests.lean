import AutowareAgent.Answers

/-!
What becomes of the gateway's commands. The handlers that they ask for run on the
strand once each and in the order in which the commands were read, whatever else
is posted in between; the replies of the stream's thread are put on the queue in
the same order, and so are the locations that were asked for, each as the status
had it when its handler ran.
-/
namespace AutowareAgent.Requests
open AutowareAgent.Machines AutowareAgent.Lanes AutowareAgent.LaneCache AutowareAgent.Trips AutowareAgent.Strand
open AutowareAgent.Automaton AutowareAgent.Gateway AutowareAgent.Reports
open AutowareAgent.Answers (filterMap_one)

section
variable {R : Type}

/-- A handler that a command asks for. -/
def ofRequest : Job R → Bool
  | .QueryEta _ _ _ | .HandleMoveCommand _ | .CancelTrip | .GetTripStatus => true
  | .StartTrip | .Engaged _ | .Deliver _ => false

/-- A report with which the stream's thread replies to a command. -/
def replies : Report R → Bool
  | .TripCancelAck _ | .OrderUpdateLocationAck _ => true
  | report => cancels report

/-- A report of the location. -/
def locates : Report R → Bool
  | .Location _ => true
  | _ => false

/-- The handler that an act posts. -/
def posted : Act R → Option (Job R)
  | .Post job => some job
  | _ => none

/-- The report that an act makes up or puts on the queue. -/
def reported : Act R → Option (Report R)
  | .Make report | .Enqueue report _ => some report
  | _ => none

/-- The handlers that a command asks for. -/
def jobsOf (command : GatewayCommand R) : List (Job R) := (dispatch command).filterMap posted

/-- The replies to a command. -/
def repliesOf (command : GatewayCommand R) : List (Report R) := (dispatch command).filterMap reported

def ranJob : Effect R → Option (Job R)
  | .Ran job _ => some job
  | .Queued _ _ => none

def queuedReport : Effect R → Option (Report R)
  | .Queued report _ => some report
  | .Ran _ _ => none

/-- The command that `Read` returns. -/
def read (m : Moment (App R) (Turn R) (Effect R)) : Option (GatewayCommand R) :=
  match m.input with
  | .Receive command => if m.pre.stream.isEmpty then some command else none
  | _ => none

/-- The location that a handler was asked for. -/
def located (m : Moment (App R) (Turn R) (Effect R)) : List (Report R) :=
  m.outputs.filterMap fun effect => match effect with
    | .Ran .GetTripStatus _ => some (.Location m.post.world.ctrl.status.currentGps)
    | _ => none

/-- The commands that were read. -/
def received (past : History (App R) (Turn R) (Effect R)) : List (GatewayCommand R) := past.reverse.filterMap read

/-- The handlers that have run. -/
def ran (past : History (App R) (Turn R) (Effect R)) : List (Job R) := (outputs past).filterMap ranJob

/-- The reports that were put on the queue. -/
def reports (past : History (App R) (Turn R) (Effect R)) : List (Report R) := (outputs past).filterMap queuedReport

/-- The locations that handlers were asked for. -/
def locations (past : History (App R) (Turn R) (Effect R)) : List (Report R) := past.reverse.flatMap located

/-- What commands ask for was done, or is on its way, in their order. -/
structure InOrder (past : History (App R) (Turn R) (Effect R)) (s : App R) : Prop where
  jobs : (received past).flatMap jobsOf =
    (ran past).filter ofRequest ++ s.strand.filter ofRequest ++ s.stream.filterMap posted
  replies : (received past).flatMap repliesOf = (reports past).filter replies ++ s.stream.filterMap reported
  locations : locations past = (reports past).filter locates ++ (s.handler.filterMap reported).filter locates

section
variable (m : Moment (App R) (Turn R) (Effect R)) (past : History (App R) (Turn R) (Effect R))

theorem received_cons : received (m :: past) = received past ++ (read m).toList := by
  cases own : read m <;> simp [received, own]

theorem ran_cons : ran (m :: past) = ran past ++ m.outputs.filterMap ranJob := by simp [ran]

theorem reports_cons : reports (m :: past) = reports past ++ m.outputs.filterMap queuedReport := by simp [reports]

theorem locations_cons : locations (m :: past) = locations past ++ located m := by simp [locations]

end

theorem read_outside {s s' : App R} {i : Turn R} {effects : List (Effect R)} (outside : i.Outside s) :
    read ⟨s, i, effects, s'⟩ = none := by
  cases i with
  | Receive command => simp [read, show s.stream ≠ [] from outside]
  | _ => rfl

/-- An act runs no handler. -/
theorem located_act (s s' : App R) (i : Turn R) (act : Act R) : located ⟨s, i, act.effects, s'⟩ = [] := by
  cases act <;> rfl

/-! ### Acts -/

theorem ofRequest_outside {jobs : List (Job R)} (outside : ∀ job ∈ jobs, job.fromOutside = true) :
    jobs.filter ofRequest = [] := by
  rw [List.filter_eq_nil_iff]
  intro job member
  have own := outside job member
  cases job <;> first | exact Bool.false_ne_true | cases own

/-- What a command leaves to do posts handlers of commands, and replies. -/
theorem ofCommand_requests {act : Act R} (command : ofCommand act = true) :
    (∀ job, posted act = some job → ofRequest job = true) ∧
      ∀ report, reported act = some report → replies report = true ∧ locates report = false := by
  cases act with
  | Post job =>
    constructor
    · rintro _ ⟨⟩
      cases job <;> first | rfl | cases command
    · rintro _ ⟨⟩
  | Make report | Enqueue report _ =>
    constructor
    · rintro _ ⟨⟩
    · rintro _ ⟨⟩
      cases report <;> first | exact ⟨rfl, rfl⟩ | exact ⟨command, rfl⟩ | cases command
  | _ => exact ⟨by rintro _ ⟨⟩, by rintro _ ⟨⟩⟩

/-- A callback posts no command's handler. -/
theorem ofCallback_posted {act : Act R} {job : Job R} (left : ofCallback act = true) (posts : posted act = some job) :
    ofRequest job = false := by
  cases act with
  | Post job' =>
    cases posts
    cases job <;> first | rfl | cases left
  | _ => cases posts

/-- An act reports, or leaves it to the next. -/
theorem act_reports {s : App R} {act : Act R} {left : List (Act R)} (leaves : act.next s = .ok left) :
    act.effects.filterMap queuedReport ++ left.filterMap reported = (reported act).toList := by
  cases act with
  | Make report =>
    obtain ⟨event, _, rfl⟩ := map_ok leaves
    rfl
  | _ =>
    cases leaves
    rfl

/-- What an act puts on the queue is what it reports. -/
theorem effects_reported {act : Act R} {report : Report R} (queued : report ∈ act.effects.filterMap queuedReport) :
    reported act = some report := by
  cases act with
  | Enqueue report' event => rw [List.mem_singleton.mp queued, reported]
  | _ => cases queued

/-- What a command leaves to do is a request, a reply, or neither. -/
theorem command_act {act : Act R} (command : ofCommand act = true) :
    (posted act).toList.filter ofRequest = (posted act).toList ∧
      (act.effects.filterMap queuedReport).filter replies = act.effects.filterMap queuedReport ∧
      (act.effects.filterMap queuedReport).filter locates = [] := by
  obtain ⟨posts, replied⟩ := ofCommand_requests command
  refine ⟨?_, ?_, ?_⟩
  · rw [List.filter_eq_self]
    exact fun job member => posts job (Option.mem_toList.mp member)
  · rw [List.filter_eq_self]
    exact fun report member => (replied report (effects_reported member)).1
  · rw [List.filter_eq_nil_iff]
    intro report member
    simp [(replied report (effects_reported member)).2]

/-- A callback that replies to no command leaves nothing of a command's. -/
theorem callback_act {act : Act R} (left : ofCallback act = true)
    (apart : ∀ report, reported act = some report → replies report = false) :
    (posted act).toList.filter ofRequest = [] ∧ (act.effects.filterMap queuedReport).filter replies = [] := by
  constructor
  · rw [List.filter_eq_nil_iff]
    intro job member
    simp [ofCallback_posted left (Option.mem_toList.mp member)]
  · rw [List.filter_eq_nil_iff]
    intro report member
    simp [apart report (effects_reported member)]

theorem act_posts {s : App R} {act : Act R} {left : List (Act R)} (leaves : act.next s = .ok left) :
    (act.apply s).strand = s.strand ++ (posted act).toList ∧ left.filterMap posted = [] ∧
      act.effects.filterMap ranJob = [] := by
  have silent : left.filterMap posted = [] := by
    rcases next_cases leaves with ⟨_, _, _, _, rfl⟩ | ⟨_, rfl⟩ <;> rfl
  cases act <;> exact ⟨by simp [Act.apply, posted], silent, rfl⟩

end

section
variable {R : Type} [Zero R] [Add R] [Sub R] [Mul R] [Div R] [NatCast R] [LT R] [DecidableLT R] [CMath R]
variable {D : MapData R} {T : TripTimings} {past : History (App R) (Turn R) (Effect R)} {s s' : App R}

omit [Zero R] [Sub R] [LT R] [DecidableLT R] [CMath R] in
/-- The callbacks of an output reply to no command, and locate nothing. -/
theorem callback_reported {o : Output R Int64} {act : Act R} {report : Report R} (called : act ∈ callback o)
    (made : reported act = some report) : replies report = false ∧ locates report = false := by
  cases o with
  | StateChange _ next =>
    cases next <;> simp [callback, tripStateCallback] at called
    all_goals rcases called with rfl | rfl | rfl | rfl
    all_goals cases made
    all_goals simp [replies, cancels, locates]
  | QueryResult asked result =>
    rcases mem_etaCallback called with ⟨_, _, rfl⟩ | rfl
    · cases made
      exact ⟨rfl, rfl⟩
    · cases made
  | _ => cases called

omit [Zero R] [Sub R] [LT R] [DecidableLT R] [CMath R] in
/-- A handler's callbacks reply to no command. -/
theorem callbacks_reply {w : World R Int64} {os : List (Output R Int64)} {job : Job R} {act : Act R}
    {report : Report R} (called : act ∈ job.callbacks w os) (made : reported act = some report) :
    replies report = false := by
  have outputs : act ∈ os.flatMap callback → replies report = false := by
    intro called
    obtain ⟨o, _, called⟩ := List.mem_flatMap.mp called
    exact (callback_reported called made).1
  cases job with
  | GetTripStatus =>
    rw [List.mem_singleton.mp called] at made
    cases made
    rfl
  | _ => exact outputs called

omit [Zero R] [Sub R] [LT R] [DecidableLT R] [CMath R] in
/-- A handler's callbacks locate the vehicle where they were asked to. -/
theorem callbacks_locate (w : World R Int64) (os : List (Output R Int64)) (job : Job R) :
    ((job.callbacks w os).filterMap reported).filter locates = match job with
      | .GetTripStatus => [.Location w.ctrl.status.currentGps]
      | _ => [] := by
  have outputs : ((os.flatMap callback).filterMap reported).filter locates = [] := by
    rw [List.filter_eq_nil_iff]
    intro report member
    obtain ⟨act, called, made⟩ := List.mem_filterMap.mp member
    obtain ⟨o, _, called⟩ := List.mem_flatMap.mp called
    simp [(callback_reported called made).2]
  cases job with
  | GetTripStatus => rfl
  | _ => exact outputs

/-! ### Runs -/

/-- The running handler replies to no command. -/
theorem handler_replies (run : Runs (Gateway.machine D T) past s) :
    ∀ act ∈ s.handler, ∀ report, reported act = some report → replies report = false := by
  refine run.invariant
    (I := fun _ s => ∀ act ∈ s.handler, ∀ report, reported act = some report → replies report = false) ?_ ?_
  · rintro _ ⟨w, _, rfl⟩ act left
    cases left
  · intro past s i effects s' _ apart stepped act left report made
    cases step_cases stepped with
    | outside _ _ _ _ _ _ _ _ | receive _ _ => exact apart act left report made
    | dispatch _ _ _ => exact apart act (by simpa using left) report made
    | run _ _ _ _ _ _ _ _ => exact callbacks_reply left made
    | handle first rest next made_up leaves =>
      rw [next] at apart
      rcases List.mem_append.mp left with new | old
      · obtain ⟨report', _, rfl, _, rfl⟩ := mem_next leaves new
        cases made
        exact apart _ List.mem_cons_self _ rfl
      · exact apart act (List.mem_cons_of_mem _ old) report made

/-- In every run the handlers that were asked for have run once each, in the order of the
    commands, or wait for it behind those; the replies were put on the queue in the
    same order, and so were the locations of the handlers that were asked for one. -/
theorem commands_in_order (run : Runs (Gateway.machine D T) past s) : InOrder past s := by
  refine run.invariant (I := InOrder) ?_ ?_
  · rintro _ ⟨w, _, rfl⟩
    exact ⟨rfl, rfl, rfl⟩
  · intro past s i effects s' earlier inOrder stepped
    obtain ⟨jobs, answers, places⟩ := inOrder
    cases step_cases stepped with
    | outside w posts switches enabled outside _ _ fromOutside _ _ =>
      have silent : ∀ s', read ⟨s, i, [], s'⟩ = none := fun _ => read_outside outside
      refine ⟨?_, ?_, ?_⟩
      · rw [received_cons, silent, ran_cons]
        simpa [ofRequest_outside fromOutside] using jobs
      · rw [received_cons, silent, reports_cons]
        simpa using answers
      · rw [locations_cons, reports_cons]
        simpa [located] using places
    | receive command free =>
      rw [free] at jobs answers
      refine ⟨?_, ?_, ?_⟩
      · rw [received_cons, ran_cons, List.flatMap_append, jobs]
        simp [read, free, jobsOf]
      · rw [received_cons, reports_cons, List.flatMap_append, answers]
        simp [read, free, repliesOf]
      · rw [locations_cons, reports_cons]
        simpa [located] using places
    | dispatch act rest next made leaves =>
      obtain ⟨commands, acks, nowhere⟩ := command_act (stream_ofCommand earlier act (by simp [next]))
      obtain ⟨strand, left, quiet⟩ := act_posts leaves
      rw [next, ← List.singleton_append, List.filterMap_append, filterMap_one] at jobs answers
      refine ⟨?_, ?_, ?_⟩
      · rw [received_cons, ran_cons, quiet, List.filterMap_append, left, strand,
          List.filter_append _ (posted act).toList, commands]
        simpa [read] using jobs
      · rw [received_cons, reports_cons, List.filter_append, acks, List.filterMap_append, List.append_assoc,
          ← List.append_assoc _ _ (rest.filterMap reported), act_reports leaves]
        simpa [read] using answers
      · rw [locations_cons, reports_cons, List.filter_append, nowhere]
        simpa [located_act] using places
    | handle act rest next made leaves =>
      obtain ⟨commands, acks⟩ := callback_act (handler_ofCallback earlier act (by simp [next]))
        (handler_replies earlier act (by simp [next]))
      obtain ⟨strand, left, quiet⟩ := act_posts leaves
      rw [next, ← List.singleton_append, List.filterMap_append, filterMap_one] at places
      refine ⟨?_, ?_, ?_⟩
      · rw [received_cons, ran_cons, quiet, strand, List.filter_append _ (posted act).toList, commands]
        simpa [read] using jobs
      · rw [received_cons, reports_cons, List.filter_append, acks]
        simpa [read] using answers
      · rw [locations_cons, reports_cons, List.filter_append, List.filterMap_append, List.filter_append,
          List.append_assoc, ← List.append_assoc _ _ ((rest.filterMap reported).filter locates),
          ← List.filter_append, act_reports leaves, ← List.filter_append]
        simpa [located_act] using places
    | run e job rest w os free next ran =>
      rw [next, List.filter_cons] at jobs
      rw [free] at places
      refine ⟨?_, ?_, ?_⟩
      · rw [received_cons, ran_cons]
        cases own : ofRequest job <;> simpa [read, List.filterMap_cons, ranJob, own] using jobs
      · rw [received_cons, reports_cons]
        simpa [read, List.filterMap_cons, queuedReport] using answers
      · rw [locations_cons, reports_cons, callbacks_locate, places]
        cases job <;> simp [located, List.filterMap_cons, queuedReport]

end

section
attribute [local instance] streetMath

/-- A location is asked for and a trip is cancelled: the first handler has run, while
    its location is not on the queue yet, and the second one waits behind the timer's. -/
theorem commands_in_order_on_street : ∃ past s, Runs (Gateway.machine street {}) past s ∧
    received past = [.OrderUpdateLocation vin, .TripCancel vin 7] ∧ ran past = [.GetTripStatus] ∧
    s.strand = [.Deliver .TickTimer, .CancelTrip] ∧
    reports past = [.OrderUpdateLocationAck true, .TripCancelAck true, .Status "CANCELLED"] ∧ InOrder past s := by
  obtain ⟨past, s, run, passes⟩ := exists_run (M := Gateway.machine street {})
    (s := initialApp (initialWorld .fresh 0))
    (commandTurns (.OrderUpdateLocation vin) ++ [.Deliver .TickTimer] ++ commandTurns (.TripCancel vin 7) ++
      [.Run (streetAt 1)]) fresh_wired
    (fun past s => decide (received past = [.OrderUpdateLocation vin, .TripCancel vin 7] ∧
      ran past = [.GetTripStatus] ∧ s.strand = [.Deliver .TickTimer, .CancelTrip] ∧
      reports past = [.OrderUpdateLocationAck true, .TripCancelAck true, .Status "CANCELLED"])) (by decide +kernel)
  obtain ⟨received, ran, waiting, replied⟩ := of_decide_eq_true passes
  exact ⟨past, s, run, received, ran, waiting, replied, commands_in_order run⟩

end
end AutowareAgent.Requests
