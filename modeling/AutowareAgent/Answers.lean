import AutowareAgent.Positions
import AutowareAgent.Queries

/-!
Which requests for a trip are answered. A quote is reported where a query has
succeeded, and a cancellation with every cancel. A query that is refused or fails
calls its callback, which only logs it, so the gateway hears nothing. Where that
does not happen every ending has its event, no more and no less.
-/
namespace AutowareAgent.Answers
open AutowareAgent.Machines AutowareAgent.Lanes AutowareAgent.LaneCache AutowareAgent.Trips AutowareAgent.Strand
open AutowareAgent.TripSteps AutowareAgent.Automaton AutowareAgent.Queries AutowareAgent.Gateway AutowareAgent.Reports
open AutowareAgent.Positions

/-- What a request can be answered with. -/
inductive Answer
  | Quote (requestId : Int64)
  | Rejection
  | Cancellation
  deriving DecidableEq, Repr

section
variable {R : Type}

/-- The events that answer a request. -/
def answerOf : VehicleEvent R → Option Answer
  | .Eta _ requestId _ _ _ => some (.Quote requestId)
  | .TripInitAck success _ | .TripCancelAck success _ => if success then none else some .Rejection
  | .Status _ _ status => if status = "CANCELLED" then some .Cancellation else none
  | _ => none

/-- The answers that the gateway has been sent. -/
def answers (past : History (App R) (Turn R) (Effect R)) : List Answer := (queued past).filterMap answerOf

/-- The answer that the end of a query calls for. -/
def outcome : Output R Int64 → Option Answer
  | .QueryResult asked result => some (if result.success then .Quote asked else .Rejection)
  | _ => none

/-- The answer that a cancel calls for. -/
def cancelled : Job R → Option Answer
  | .CancelTrip => some .Cancellation
  | _ => none

/-- How the queries have ended, and the cancels that were handled. -/
def endings (past : History (App R) (Turn R) (Effect R)) : List Answer :=
  past.flatMap fun m => m.outputs.flatMap fun effect => match effect with
    | .Ran job outputs => (cancelled job).toList ++ outputs.filterMap outcome
    | .Queued _ _ => []

/-- Once the threads have nothing left to do, every query that has ended has its
    answer, and every cancel that was asked for. -/
def Answered (past : History (App R) (Turn R) (Effect R)) (s : App R) : Prop :=
  s.handler = [] → s.stream = [] → (answers past).Perm (endings past ++ s.strand.filterMap cancelled)

/-- The answer that an act still has to send. -/
def awaited : Act R → Option Answer
  | .Make (.Eta asked _ _) => some (.Quote asked)
  | .Make (.TripCancelAck success) => if success then none else some .Rejection
  | .Make (.Status status) => if status = "CANCELLED" then some .Cancellation else none
  | .Enqueue _ event => answerOf event
  | _ => none

/-- The cancel that an act still has to post. -/
def posting : Act R → Option Answer
  | .Post job => cancelled job
  | _ => none

/-- The answers that were sent and those that the threads still have to send. -/
def sent (past : History (App R) (Turn R) (Effect R)) (s : App R) : List Answer :=
  answers past ++ (s.handler.filterMap awaited ++ s.stream.filterMap awaited)

/-- The answers that are called for, also by the cancels that still have to be posted or handled. -/
def called (past : History (App R) (Turn R) (Effect R)) (s : App R) : List Answer :=
  endings past ++ (s.strand.filterMap cancelled ++ s.stream.filterMap posting)

/-! ### Acts -/

@[simp] theorem endings_nil : endings ([] : History (App R) (Turn R) (Effect R)) = [] := rfl

theorem endings_quiet {m : Moment (App R) (Turn R) (Effect R)} {past : History (App R) (Turn R) (Effect R)}
    (quiet : ∀ job os, .Ran job os ∉ m.outputs) : endings (m :: past) = endings past := by
  have none : (m.outputs.flatMap fun effect => match effect with
      | .Ran job outputs => (cancelled job).toList ++ outputs.filterMap outcome
      | .Queued _ _ => []) = [] := by
    rw [List.flatMap_eq_nil_iff]
    intro effect member
    cases effect with
    | Ran job os => exact absurd member (quiet job os)
    | Queued report event => rfl
  rw [endings, List.flatMap_cons, none]
  rfl

theorem answers_cons (m : Moment (App R) (Turn R) (Effect R)) (past : History (App R) (Turn R) (Effect R)) :
    answers (m :: past) = answers past ++ answers [m] := by
  simp [answers, queued]

theorem effects_ran {act : Act R} {job : Job R} {os : List (Output R Int64)} : .Ran job os ∉ act.effects := by
  cases act <;> simp [Act.effects]

/-- The cancels that a command asks for are those that it is told of. -/
theorem dispatch_balanced (command : GatewayCommand R) :
    (dispatch command).filterMap awaited = (dispatch command).filterMap posting := by
  unfold dispatch
  split
  · rfl
  · cases command <;> rfl

theorem filterMap_one {α β : Type} (f : α → Option β) (a : α) : [a].filterMap f = (f a).toList := by
  cases value : f a <;> simp [value]

/-- An act sends what it was to send, if a quote is told to its own request. -/
theorem act_sent {s : App R} (s' : App R) (i : Turn R) {act : Act R} {left : List (Act R)}
    (leaves : act.next s = .ok left)
    (own : ∀ asked time fare, act = .Make (.Eta asked time fare) → s.currentRequestId = asked) :
    answers [⟨s, i, act.effects, s'⟩] ++ left.filterMap awaited = (awaited act).toList := by
  cases act with
  | Make report =>
    obtain ⟨event, made, rfl⟩ := map_ok leaves
    have sends : answerOf event = awaited (.Make report) := by
      cases report with
      | Eta asked time fare =>
        obtain ⟨requestId, read, rfl⟩ := map_ok made
        rw [(getEta_ok read).2, answerOf, own asked time fare rfl, awaited]
      | _ =>
        cases made
        rfl
    rw [filterMap_one, awaited, sends]
    rfl
  | Enqueue report event =>
    cases leaves
    change [event].filterMap answerOf ++ [] = _
    rw [filterMap_one, List.append_nil, awaited]
  | _ =>
    cases leaves
    rfl

/-- An act posts what it was to post. -/
theorem act_posted {s : App R} {act : Act R} {left : List (Act R)} (leaves : act.next s = .ok left) :
    left.filterMap posting = [] ∧
      (act.apply s).strand.filterMap cancelled = s.strand.filterMap cancelled ++ (posting act).toList := by
  constructor
  · rw [List.filterMap_eq_nil_iff]
    intro a member
    obtain ⟨_, _, _, _, rfl⟩ := mem_next leaves member
    rfl
  · cases act with
    | Post job =>
      change (s.strand ++ [job]).filterMap cancelled = _
      rw [List.filterMap_append, filterMap_one, posting]
    | _ => exact (List.append_nil _).symm

/-- The request whose quote an act is to make up. -/
def quoteOf : Act R → Option Int64
  | .Make (.Eta asked _ _) => some asked
  | _ => none

end

section
variable {R : Type} [Zero R] [Add R] [Sub R] [Mul R] [Div R] [NatCast R] [LT R] [DecidableLT R] [CMath R]

/-- A request that comes where no query is accepted, or whose pickup leg is lost. -/
def Refused (D : MapData R) (e : Env R) (c : TripController R Int64) : Job R → Prop
  | .QueryEta requestId start goal => ¬ (c.status.state = .Idle ∧ ∃ vehiclePose,
      getCurrentVehiclePose D e.tf = some vehiclePose ∧
        ¬ Stranded D (c.openQuery start goal (some requestId)) vehiclePose start)
  | _ => False

instance (D : MapData R) (e : Env R) (c : TripController R Int64) (job : Job R) : Decidable (Refused D e c job) :=
  match job with
  | .QueryEta _ start _ =>
    inferInstanceAs (Decidable (¬ (_ ∧ ∃ vehiclePose ∈ getCurrentVehiclePose D e.tf, ¬ Stranded D _ vehiclePose start)))
  | .StartTrip | .HandleMoveCommand _ | .CancelTrip | .GetTripStatus | .Engaged _ | .Deliver _ => instDecidableFalse

/-- A step after which nobody is told the end of a query: it is refused or fails, or
    its quote is told to another request, or to none since the adapter is gone. -/
def Unheard (D : MapData R) (T : TripTimings) (s : App R) : Turn R → Prop
  | .Run e => s.handler = [] ∧ ∃ job ∈ s.strand.head?, Refused D e s.world.ctrl job ∨
      job = .Deliver .TickTimer ∧ Fails D T e.now (pipelineOf s.world.ctrl)
  | .Handler => ∃ act ∈ s.handler.head?, ∃ asked ∈ quoteOf act, s.etaAdapter = false ∨ s.currentRequestId ≠ asked
  | _ => False

instance [DecidableEq R] (D : MapData R) (T : TripTimings) (s : App R) (i : Turn R) : Decidable (Unheard D T s i) :=
  match i with
  | .Run e =>
    inferInstanceAs
      (Decidable (_ ∧ ∃ job ∈ s.strand.head?, Refused D e s.world.ctrl job ∨ job = .Deliver .TickTimer ∧ _))
  | .Handler => inferInstanceAs (Decidable (∃ act ∈ s.handler.head?, ∃ asked ∈ quoteOf act, _ ∨ _))
  | .Receive _ | .Dispatch | .Deliver _ | .ModeResponse _ _ | .EngageResponse _ _ | .Switch | .Returns =>
    instDecidableFalse

/-! ### Handlers -/

section
variable {D : MapData R} {T : TripTimings} {w w' : World R Int64} {e : Env R} {job : Job R}
variable {os : List (Output R Int64)}

omit [Zero R] [Sub R] [LT R] [DecidableLT R] [CMath R] in
/-- The callbacks of a handler send a quote for each query that succeeded. -/
theorem callbacks_awaited (told : job = .GetTripStatus → os = [])
    (heard : ∀ o ∈ os, outcome o ≠ some .Rejection) :
    (job.callbacks w os).filterMap awaited = os.filterMap outcome := by
  have outputs : (os.flatMap callback).filterMap awaited = os.filterMap outcome := by
    clear told
    induction os with
    | nil => rfl
    | cons o rest ih =>
      obtain ⟨first, later⟩ := List.forall_mem_cons.mp heard
      have own : (callback o).filterMap awaited = (outcome o).toList := by
        cases o with
        | StateChange prev next => cases next <;> simp [callback, tripStateCallback, awaited, outcome]
        | QueryResult asked result =>
          cases success : result.success with
          | true => simp [callback, etaCallback, outcome, success, awaited]
          | false => simp [outcome, success] at first
        | _ => rfl
      rw [List.flatMap_cons, List.filterMap_append, own, ih later, ← filterMap_one, ← List.filterMap_append,
        List.singleton_append]
  cases job with
  | GetTripStatus =>
    rw [told rfl]
    rfl
  | _ => exact outputs

omit [Div R] in
/-- Only a request's own handler and a tick that fails the query tell of a failure. -/
theorem failed_progress {i : Input R Int64} {p p' : Pipeline R Int64} {told : List (Notice R Int64)} {asked : Int64}
    {result : EtaQueryResult R} (moved : Progress D T i p told p') (member : .Answered asked result ∈ told)
    (no : result.success = false) :
    (∃ e start goal cb, i = .Handle e (.QueryEta start goal cb)) ∨ ∃ e, i = .Handle e .Tick ∧ Fails D T e.now p := by
  cases moved with
  | quiet _ refused => rcases refused with rfl | rfl <;> simp at member
  | refuse _ | failOpen _ _ _ => exact .inl ⟨_, _, _, _, rfl⟩
  | fail fails _ _ => exact .inr ⟨_, rfl, fails⟩
  | endTrip d t _ _ _ =>
    rcases List.mem_append.mp member with own | other
    · have success : result.success = true := by
        cases cb : p.cb with
        | none => simp [answered, cb] at own
        | some cb' =>
          simp only [answered, cb, Option.map_some, Option.toList_some, List.mem_singleton,
            Notice.Answered.injEq] at own
          rw [own.2]
      rw [no] at success
      cases success
    · simp at other
  | drive _ _ _ _ _ _ _ _ _ accepted => rcases accepted with rfl | rfl <;> simp at member
  | _ => simp at member

/-- A handler of one input tells of a failure only where one comes. -/
theorem single_heard {i : Input R Int64} (reach : Reachable (Strand.machine D T) w)
    (ran : burst (Strand.machine D T) w [i] = .ok (w', os))
    (other : ∀ e start goal cb, i ≠ .Handle e (.QueryEta start goal cb))
    (passes : ∀ e, i = .Handle e .Tick → ¬ Fails D T e.now (pipelineOf w.ctrl)) :
    ∀ o ∈ os, outcome o ≠ some .Rejection := by
  obtain ⟨past, run⟩ := reach
  obtain ⟨u, first, later, stepped, rest, rfl⟩ := burst_cons ran
  cases rest
  intro o member failed
  cases o with
  | QueryResult asked result =>
    cases success : result.success with
    | true => simp [outcome, success] at failed
    | false =>
      have told : .Answered asked result ∈ notices first := mem_notices (by simpa using member) rfl
      rcases failed_progress (step_progress run stepped) told success with ⟨e, start, goal, cb, rfl⟩ | ⟨e, rfl, fails⟩
      · exact other e start goal cb rfl
      · exact passes e rfl fails
  | _ => cases failed

/-- A request that is not refused begins with its pickup leg. -/
theorem queryEta_heard {e : Env R} {start goal : GPSCoordinate R} {requestId : Int64} {c c' : TripController R Int64}
    (quiet : c.out = []) (accepted : ¬ Refused D e c (.QueryEta requestId start goal))
    (ran : (Operation.QueryEta start goal (some requestId)).apply D T e c = .ok c') :
    ∀ o ∈ c'.out, outcome o ≠ some .Rejection := by
  obtain ⟨idle, vehiclePose, located, goes⟩ := not_not.mp accepted
  obtain ⟨r, queried, rfl⟩ := map_ok ran
  unfold TripController.queryEta at queried
  rw [if_neg (not_not.mpr idle), located] at queried
  obtain ⟨c₁, started, rest⟩ := bind_ok queried
  cases rest
  rcases startQueryLeg_outcome started with ⟨lost, _⟩ | ⟨_, m, fromLane, toLane, rfl⟩
  · exact absurd lost goes
  · intro o member
    simp [returning, TripController.emit, legStatus, TripController.openQuery, idle, quiet] at member
    rcases member with rfl | rfl <;> simp [outcome]

/-- A handler tells of a failure only where it refuses a request or fails the query. -/
theorem ran_heard (reach : Reachable (Strand.machine D T) w)
    (ran : burst (Strand.machine D T) w (job.inputs D e) = .ok (w', os)) (accepted : ¬ Refused D e w.ctrl job)
    (passes : job = .Deliver .TickTimer → ¬ Fails D T e.now (pipelineOf w.ctrl)) :
    ∀ o ∈ os, outcome o ≠ some .Rejection := by
  cases job with
  | QueryEta requestId start goal =>
    obtain ⟨u, first, later, stepped, rest, rfl⟩ := burst_cons ran
    cases rest
    obtain ⟨c, applied, rfl, _⟩ := handle_cases stepped
    obtain ⟨past, run⟩ := reach
    rw [List.append_nil]
    exact queryEta_heard (out_nil run) accepted applied
  | GetTripStatus =>
    cases ran
    simp
  | Deliver delivery =>
    cases delivery with
    | TickTimer =>
      have calm := passes rfl
      obtain ⟨past, run⟩ := reach
      obtain ⟨past', u, run', ticked, set⟩ := tickTimer_cases run ran
      have same : pipelineOf u.ctrl = pipelineOf w.ctrl := by
        rcases set with ⟨_, rfl⟩ | ⟨gps, _, set⟩
        · rfl
        · rw [set]
          rfl
      refine single_heard ⟨past', run'⟩ ticked (by simp) ?_
      rintro _ ⟨⟩
      rw [same]
      exact calm
    | _ => exact single_heard reach ran (by simp) (by simp)
  | _ => exact single_heard reach ran (by simp) (by simp)

end

/-! ### Runs -/

section
variable {D : MapData R} {T : TripTimings} {past : History (App R) (Turn R) (Effect R)} {s : App R}

omit [Zero R] [Add R] [Sub R] [Mul R] [Div R] [NatCast R] [LT R] [DecidableLT R] [CMath R] in
/-- The handlers that come from outside cancel nothing. -/
theorem outside_cancelled {jobs : List (Job R)} (posted : ∀ job ∈ jobs, job.fromOutside = true) :
    jobs.filterMap cancelled = [] := by
  rw [List.filterMap_eq_nil_iff]
  intro job member
  cases job with
  | CancelTrip => cases posted _ member
  | _ => rfl

omit [Zero R] [Add R] [Sub R] [Mul R] [Div R] [NatCast R] [LT R] [DecidableLT R] [CMath R] in
theorem ofCallback_posting {act : Act R} (left : ofCallback act = true) : posting act = none := by
  cases act with
  | Post job =>
    cases job with
    | CancelTrip => cases left
    | _ => rfl
  | _ => rfl

/-- As long as nobody goes unheard, the answers sent are those called for. -/
theorem balanced_run (run : Runs (Gateway.machine D T) past s)
    (heard : Along (fun _ m => ¬ Unheard D T m.pre m.input) past) : (sent past s).Perm (called past s) := by
  refine run.invariant_along (I := fun past s => (sent past s).Perm (called past s))
    (C := fun _ m => ¬ Unheard D T m.pre m.input) ?_ ?_ heard
  · rintro _ ⟨w, _, rfl⟩
    exact .nil
  · intro past s i effects s' earlier balanced stepped heard
    rw [List.perm_iff_count] at balanced ⊢
    intro answer
    have before := balanced answer
    simp only [sent, called, List.count_append] at before
    rw [sent, called, answers_cons]
    cases step_cases stepped with
    | outside w jobs switches enabled _ _ _ posted =>
      rw [endings_quiet (by simp)]
      simpa [outside_cancelled posted, answers, queued] using before
    | receive command free =>
      rw [endings_quiet (by simp)]
      rw [free] at before
      simp [dispatch_balanced, answers, queued] at before ⊢
      omega
    | dispatch act rest next left leaves =>
      have command := stream_ofCommand earlier act (by simp [next])
      have own : ∀ asked time fare, act = .Make (.Eta asked time fare) → s.currentRequestId = asked := by
        rintro _ _ _ rfl
        cases command
      obtain ⟨unposted, posted⟩ := act_posted leaves
      have sends := congrArg (List.count answer)
        (act_sent { act.apply s with stream := left ++ rest } .Dispatch leaves own)
      have posts := congrArg (List.count answer) posted
      rw [endings_quiet fun _ _ => effects_ran]
      rw [next, ← List.singleton_append, List.filterMap_append, List.filterMap_append, filterMap_one,
        filterMap_one] at before
      simp only [List.filterMap_append, List.count_append, apply_handler, unposted,
        List.count_nil] at before sends posts ⊢
      omega
    | handle act rest next left leaves =>
      have own : ∀ asked time fare, act = .Make (.Eta asked time fare) → s.currentRequestId = asked := by
        rintro asked time fare rfl
        by_contra other
        exact heard ⟨.Make (.Eta asked time fare), by simp [next], asked, rfl, .inr other⟩
      have quiet : posting act = none := ofCallback_posting (handler_ofCallback earlier act (by simp [next]))
      have sends := congrArg (List.count answer)
        (act_sent { act.apply s with handler := left ++ rest } .Handler leaves own)
      have posts := congrArg (List.count answer) (act_posted leaves).2
      rw [endings_quiet fun _ _ => effects_ran]
      rw [next, ← List.singleton_append, List.filterMap_append, filterMap_one] at before
      simp only [List.filterMap_append, List.count_append, apply_stream, quiet, Option.toList_none,
        List.count_nil] at before sends posts ⊢
      omega
    | run e job rest w os free next ran =>
      have first : job ∈ s.strand.head? := by simp [next]
      have told : job = .GetTripStatus → os = [] := by
        rintro rfl
        cases ran
        rfl
      have reported := ran_heard (world_reachable earlier) ran
        (fun refused => heard ⟨free, job, first, .inl refused⟩)
        (fun timer fails => heard ⟨free, job, first, .inr ⟨timer, fails⟩⟩)
      rw [next, ← List.singleton_append, List.filterMap_append, filterMap_one] at before
      simp [callbacks_awaited told reported, answers, queued, endings, free] at before ⊢
      omega

/-- The running callback gets to its next act, unless that is to read a request
    identifier through the adapter that is gone. -/
theorem handler_goes (heard : ¬ Unheard D T s .Handler) : ∃ r, Gateway.step D T s .Handler = .ok r := by
  cases front : s.handler with
  | nil => exact ⟨(s, []), by simp only [Gateway.step, front]⟩
  | cons act rest =>
    obtain ⟨left, leaves⟩ : ∃ left, act.next s = .ok left := by
      refine next_ok fun asked time fare own => ?_
      by_contra gone
      exact heard ⟨act, by simp [front], asked, by rw [own]; rfl, .inl (by simpa using gone)⟩
    refine ⟨({ act.apply s with handler := left ++ rest }, act.effects), ?_⟩
    simp only [Gateway.step, front, leaves]
    rfl

/-- In every run in which no request is refused, no query fails and every quote is
    told to its own request, every ending has its answer, and the callbacks get
    to sending it. -/
theorem answered_along (run : Runs (Gateway.machine D T) past s)
    (heard : Along (fun _ m => ¬ Unheard D T m.pre m.input) past) (next : ¬ Unheard D T s .Handler) :
    Answered past s ∧ ∃ r, Gateway.step D T s .Handler = .ok r := by
  refine ⟨fun done dispatched => ?_, handler_goes next⟩
  have balanced := balanced_run run heard
  simpa [sent, called, done, dispatched] using balanced

end

end

section
attribute [local instance] streetMath

/-- A request on the street that is answered with its quote, and whose trip is cancelled. -/
theorem answered_along_on_street : ∃ past s, Runs (Gateway.machine street {}) past s ∧
    (s.handler = [] ∧ s.stream = [] ∧ endings past = [.Cancellation, .Quote 5]) ∧
    Answered past s ∧ ∃ r, Gateway.step street {} s .Handler = .ok r := by
  obtain ⟨past, s, run, ended⟩ := exists_run (M := Gateway.machine street {}) (s := initialApp (initialWorld .fresh 0))
    (queryTurns 5 ++ deliveryTurns 9 (legTurns 90 12) ++ List.replicate 3 .Handler ++ [.Run (streetAt 16)] ++
      commandTurns (.TripCancel vin 5) ++ [.Run (streetAt 17)]) fresh_wired
    (fun past s => decide ((s.handler = [] ∧ s.stream = [] ∧ endings past = [.Cancellation, .Quote 5]) ∧
      Along (fun _ m => ¬ Unheard street {} m.pre m.input) past ∧ ¬ Unheard street {} s .Handler))
    (by decide +kernel)
  obtain ⟨quiet, heard, next⟩ := of_decide_eq_true ended
  exact ⟨past, s, run, quiet, answered_along run heard next⟩

/-- A second request comes while the first one's query runs. It is refused, and nobody is told. -/
theorem refused_unheard : ∃ past s, Runs (Gateway.machine street {}) past s ∧ ¬ Answered past s := by
  obtain ⟨past, s, run, refused⟩ := exists_run (M := Gateway.machine street {})
    (s := initialApp (initialWorld .fresh 0))
    (commandTurns (initOnStreet 5) ++ [.Run (streetAt 1)] ++ commandTurns (initOnStreet 9) ++ [.Run (streetAt 2)])
    fresh_wired
    (fun past s => decide (s.handler = [] ∧ s.stream = [] ∧ Answer.Rejection ∈ endings past ∧ answers past = []))
    (by decide +kernel)
  obtain ⟨done, dispatched, called, none⟩ := of_decide_eq_true refused
  refine ⟨past, s, run, fun answered => ?_⟩
  have told := (answered done dispatched).mem_iff.mpr (List.mem_append_left _ called)
  rw [none] at told
  cases told

end
end AutowareAgent.Answers
