import AutowareAgent.Reports

/-!
What is reported after a cancellation was reported. The cancel handler is posted
to the strand while the acknowledgement and the status go on the queue at once,
so the handlers in front of it may still finish a leg. Nothing more is reported
in the runs in which none of them does.
-/
namespace AutowareAgent.Cancellation
open AutowareAgent.Machines AutowareAgent.Lanes AutowareAgent.LaneCache AutowareAgent.Trips AutowareAgent.Strand
open AutowareAgent.Automaton AutowareAgent.Gateway AutowareAgent.Reports

section
variable {R : Type}

/-- A report of a trip that goes on. -/
def ofTrip : Report R → Bool
  | .Status status => status ∈ ["ARRIVED_AT_PICKUP", "IN_PROGRESS", "COMPLETED"]
  | .Arrive => true
  | _ => false

/-- The report that an act makes or carries meets a test. -/
def actReports (test : Report R → Bool) : Act R → Bool
  | .Make report | .Enqueue report _ => test report
  | _ => false

/-- A query that may open another trip. -/
def asksQuery : Job R → Bool
  | .QueryEta _ _ _ => true
  | _ => false

def postsQuery : Act R → Bool
  | .Post job => asksQuery job
  | _ => false

def postsCancel : Act R → Bool
  | .Post .CancelTrip => true
  | _ => false

/-- A `TripInit` for this vehicle is read. -/
def opensTrip (m : Moment (App R) (Turn R) (Effect R)) : Bool :=
  match m.input with
  | .Receive (.TripInit vinNumber _ _ _) => vinNumber = vin && m.pre.stream.isEmpty
  | _ => false

/-- The cancellation goes on the queue. -/
def reportsCancelled (m : Moment (App R) (Turn R) (Effect R)) : Bool :=
  m.outputs.any fun effect => match effect with
    | .Queued report _ => cancels report
    | .Ran _ _ => false

/-- A cancellation has been reported since the last `TripInit`. -/
def Cancelled (past : History (App R) (Turn R) (Effect R)) : Prop :=
  ∃ m ∈ since opensTrip past, reportsCancelled m = true

/-- Nothing is reported about a trip after its cancellation was. -/
def Silent (past : History (App R) (Turn R) (Effect R)) (m : Moment (App R) (Turn R) (Effect R)) : Prop :=
  Cancelled past → ∀ report event, .Queued report event ∈ m.outputs → ofTrip report = false

/-- The handlers leave the cancellation alone: when it goes on the queue, the
    running one has nothing about the trip left to report, and none that runs
    while the cancel handler waits makes a move that is reported. -/
def Undisturbed (past : History (App R) (Turn R) (Effect R)) (m : Moment (App R) (Turn R) (Effect R)) : Prop :=
  (reportsCancelled m = true → ∀ act ∈ m.pre.handler, actReports ofTrip act = false) ∧
  (Cancelled past → .CancelTrip ∈ m.pre.strand →
    ∀ job ∈ started m, ¬ Reporting (jobEvent m.pre.world job) (phaseOf m.pre.world.ctrl))

instance (past : History (App R) (Turn R) (Effect R)) : Decidable (Cancelled past) :=
  inferInstanceAs (Decidable (∃ m ∈ since opensTrip past, _))

instance [DecidableEq R] (past : History (App R) (Turn R) (Effect R)) (m : Moment (App R) (Turn R) (Effect R)) :
    Decidable (Undisturbed past m) := inferInstanceAs (Decidable (_ ∧ _))

/-- The trip is over, or a cancel handler that no query follows waits to end it. -/
def Settling (s : App R) : Prop :=
  (∃ before later, s.strand = before ++ .CancelTrip :: later ∧ ∀ job ∈ later, asksQuery job = false) ∨
  (s.world.ctrl.status.state = .Idle ∧ (phaseOf s.world.ctrl).held = false ∧ ∀ job ∈ s.strand, asksQuery job = false)

/-- A thread reports the cancellation only after it has posted the cancel handler. -/
def Heralded (settling : Prop) (acts : List (Act R)) : Prop :=
  ∀ act ∈ acts.takeWhile (fun act => !postsCancel act), actReports cancels act = true → settling

/-- What makes the application keep silent after a cancellation. -/
structure Quieted (past : History (App R) (Turn R) (Effect R)) (s : App R) : Prop where
  apart : (∃ act ∈ s.stream, actReports cancels act = true) → ∀ act ∈ s.stream, postsQuery act = false
  heralded : Heralded (Settling s) s.stream
  settling : Cancelled past → Settling s
  unasked : Cancelled past → ∀ act ∈ s.stream, postsQuery act = false
  silent : Cancelled past → ∀ act ∈ s.handler, actReports ofTrip act = false

/-! ### Reports and acts -/

theorem ofTrip_names {report : Report R} (about : ofTrip report = true) : namesTrip report = true := by
  cases report <;> first | rfl | cases about

theorem dispatch_apart {command : GatewayCommand R}
    (cancelled : ∃ act ∈ dispatch command, actReports cancels act = true) :
    ∀ act ∈ dispatch command, postsQuery act = false := by
  unfold dispatch at *
  split at cancelled
  · simp at cancelled
  · cases command <;> simp_all [actReports, cancels, postsQuery, asksQuery]

theorem dispatch_heralded (settling : Prop) (command : GatewayCommand R) : Heralded settling (dispatch command) := by
  unfold Heralded dispatch
  split
  · simp
  · cases command <;> simp [postsCancel, actReports, cancels]

theorem dispatch_query {s s' : App R} {command : GatewayCommand R} {effects : List (Effect R)} (free : s.stream = [])
    (asked : ∃ act ∈ dispatch command, postsQuery act = true) :
    opensTrip ⟨s, .Receive command, effects, s'⟩ = true := by
  unfold dispatch at asked
  split at asked
  · simp at asked
  · rename_i own
    cases command <;> simp_all [postsQuery, asksQuery, opensTrip, GatewayCommand.vinNumber]

theorem heralded_mono {P Q : Prop} {acts : List (Act R)} (still : P → Q) (heralded : Heralded P acts) :
    Heralded Q acts :=
  fun act member cancelled => still (heralded act member cancelled)

/-! ### The window -/

section
variable {m : Moment (App R) (Turn R) (Effect R)} {past : History (App R) (Turn R) (Effect R)}

theorem cancelled_opens (opens : opensTrip m = true) : ¬ Cancelled (m :: past) := by
  rintro ⟨n, member, _⟩
  rw [since_cons_kind opens] at member
  cases member

theorem cancelled_before (cancelled : Cancelled (m :: past)) : reportsCancelled m = true ∨ Cancelled past := by
  cases opens : opensTrip m with
  | true => exact absurd cancelled (cancelled_opens opens)
  | false =>
    obtain ⟨n, member, reports⟩ := cancelled
    rw [since_cons_other opens] at member
    rcases List.mem_cons.mp member with rfl | older
    · exact .inl reports
    · exact .inr ⟨n, older, reports⟩

end

end

/-! ### Idle controllers -/

theorem advance_cancel {p p' : Phase} {sigs : List Signal} (moved : Advance .Cancel p sigs p') :
    p' = ⟨.Idle, false, none, false⟩ := by
  cases moved with
  | cancel => rfl
  | plan asked _ _ _ _ => simp at asked
  | refuse asked | goToPickup asked _ | failMove asked _ | move asked _ => simp at asked

/-- An idle controller that holds no trip leaves this state for a query only. -/
theorem advance_idle {ev : Event} {p p' : Phase} {sigs : List Signal} (moved : Advance ev p sigs p')
    (idle : p.state = .Idle) (empty : p.held = false) (other : ev ≠ .Query) :
    p'.state = .Idle ∧ p'.held = false := by
  cases moved with
  | plan asked _ _ _ _ => simp_all
  | _ => simp_all

section
variable {R : Type} [Zero R] [Add R] [Sub R] [Mul R] [Div R] [NatCast R] [LT R] [DecidableLT R] [CMath R]
variable {D : MapData R} {T : TripTimings} {past : History (App R) (Turn R) (Effect R)} {s s' : App R}

omit [Zero R] [Add R] [Sub R] [Mul R] [Div R] [NatCast R] [LT R] [DecidableLT R] [CMath R] in
/-- Jobs that ask for no query may be posted while a cancellation settles. -/
theorem settling_post {jobs : List (Job R)} (settling : Settling s) (same : s'.world.ctrl = s.world.ctrl)
    (posted : s'.strand = s.strand ++ jobs) (other : ∀ job ∈ jobs, asksQuery job = false) : Settling s' := by
  rcases settling with ⟨before, later, split, none⟩ | ⟨idle, empty, none⟩
  · refine .inl ⟨before, later ++ jobs, by simp [posted, split], fun job member => ?_⟩
    rcases List.mem_append.mp member with member | member
    · exact none job member
    · exact other job member
  · refine .inr ⟨same ▸ idle, same ▸ empty, fun job member => ?_⟩
    rw [posted] at member
    rcases List.mem_append.mp member with member | member
    · exact none job member
    · exact other job member

/-- A handler on the strand brings a cancellation nearer to its end. -/
theorem settling_run {e : Env R} {job : Job R} {rest : List (Job R)} {w : World R Int64} {os : List (Output R Int64)}
    (run : Runs (Gateway.machine D T) past s) (settling : Settling s) (next : s.strand = job :: rest)
    (ran : burst (Strand.machine D T) s.world (job.inputs D e) = .ok (w, os)) (acts : List (Act R)) :
    Settling { s with world := w, strand := rest, handler := acts } := by
  have moved := job_advance (world_reachable run) ran
  rcases settling with ⟨before, later, split, none⟩ | ⟨idle, empty, none⟩
  · rw [next] at split
    cases before with
    | nil =>
      cases split
      have cancelled := advance_cancel moved
      exact .inr ⟨congrArg Phase.state cancelled, congrArg Phase.held cancelled, none⟩
    | cons first before =>
      cases split
      exact .inl ⟨before, later, rfl, none⟩
  · rw [next] at none
    have other : jobEvent s.world job ≠ .Query := by
      have plain := none job List.mem_cons_self
      cases job with
      | QueryEta id start goal => cases plain
      | Engaged seq => simp only [jobEvent]; split <;> simp
      | Deliver delivery => cases delivery <;> simp [jobEvent]
      | _ => simp [jobEvent]
    obtain ⟨idle', empty'⟩ := advance_idle moved idle empty other
    exact .inr ⟨idle', empty', fun job member => none job (List.mem_cons_of_mem _ member)⟩

/-- A handler that runs while a cancellation settles reports nothing of the trip,
    unless it makes one of the moves that the cancel handler comes too late for. -/
theorem silent_run {e : Env R} {job : Job R} {w : World R Int64} {os : List (Output R Int64)}
    (run : Runs (Gateway.machine D T) past s) (settling : Settling s)
    (ran : burst (Strand.machine D T) s.world (job.inputs D e) = .ok (w, os))
    (undisturbed : .CancelTrip ∈ s.strand → ¬ Reporting (jobEvent s.world job) (phaseOf s.world.ctrl)) :
    ∀ act ∈ job.callbacks w os, actReports ofTrip act = false := by
  have unreported : ¬ Reporting (jobEvent s.world job) (phaseOf s.world.ctrl) := by
    rcases settling with ⟨before, later, split, _⟩ | ⟨idle, _, _⟩
    · exact undisturbed (by simp [split])
    · rintro (⟨_, driving | driving, _⟩ | ⟨_, engaging, _⟩)
      · cases idle.symm.trans driving
      · cases idle.symm.trans driving
      · cases idle.symm.trans engaging
  intro act left
  by_contra about
  cases act with
  | Make report =>
    have about : ofTrip report = true := by simpa [actReports] using about
    exact unreported (job_reports (world_reachable run) ran left (ofTrip_names about))
  | Enqueue report event => exact callbacks_enqueue left
  | _ => simp [actReports] at about

omit [Zero R] [Add R] [Sub R] [Mul R] [Div R] [NatCast R] [LT R] [DecidableLT R] [CMath R] in
theorem settling_act {act : Act R} (settling : Settling s) (plain : postsQuery act = false) :
    Settling (act.apply s) := by
  cases act with
  | Post job => exact settling_post settling rfl rfl (by simpa [postsQuery] using plain)
  | _ => exact settling

omit [Zero R] [Add R] [Sub R] [Mul R] [Div R] [NatCast R] [LT R] [DecidableLT R] [CMath R] in
/-- The stream's thread reports the cancellation while it settles. -/
theorem heralded_dispatch {act : Act R} {rest left : List (Act R)} (quieted : Quieted past s)
    (next : s.stream = act :: rest) (leaves : act.next s = .ok left) :
    Heralded (Settling (act.apply s)) (left ++ rest) := by
  intro a member cancelled
  by_cases posts : postsCancel act = true
  · cases act with
    | Post job =>
      cases job with
      | CancelTrip => exact .inl ⟨s.strand, [], rfl, by simp⟩
      | _ => cases posts
    | _ => cases posts
  · have heralded := quieted.heralded
    rw [next, Heralded, List.takeWhile_cons_of_pos (by simpa using posts)] at heralded
    have cancelling : ∃ b ∈ act :: rest.takeWhile (fun act => !postsCancel act), actReports cancels b = true := by
      rcases next_cases leaves with ⟨report, event, rfl, _, rfl⟩ | ⟨_, rfl⟩
      · rw [List.singleton_append, List.takeWhile_cons_of_pos rfl] at member
        rcases List.mem_cons.mp member with rfl | later
        · exact ⟨_, List.mem_cons_self, cancelled⟩
        · exact ⟨a, List.mem_cons_of_mem _ later, cancelled⟩
      · exact ⟨a, List.mem_cons_of_mem _ member, cancelled⟩
    obtain ⟨b, first, reports⟩ := cancelling
    have own : b ∈ act :: rest := List.cons_subset_cons act (List.takeWhile_subset _) first
    refine settling_act (heralded b first reports) (quieted.apart ⟨b, next ▸ own, reports⟩ act ?_)
    rw [next]
    exact List.mem_cons_self

omit [Zero R] [Add R] [Sub R] [Mul R] [Div R] [NatCast R] [LT R] [DecidableLT R] [CMath R] in
/-- An act of the stream's thread: a cancellation is reported once its handler was posted. -/
theorem quieted_dispatch {act : Act R} {rest left : List (Act R)} (quieted : Quieted past s)
    (next : s.stream = act :: rest) (leaves : act.next s = .ok left)
    (undisturbed : Undisturbed past ⟨s, .Dispatch, act.effects, s'⟩) :
    Quieted (⟨s, .Dispatch, act.effects, s'⟩ :: past) { act.apply s with stream := left ++ rest } := by
  have first : act ∈ s.stream := by rw [next]; exact List.mem_cons_self
  have later : ∀ {a}, a ∈ rest → a ∈ s.stream := fun member => by rw [next]; exact List.mem_cons_of_mem _ member
  have plain : (∀ a ∈ s.stream, postsQuery a = false) → ∀ a ∈ left ++ rest, postsQuery a = false := by
    intro none a member
    rcases List.mem_append.mp member with new | old
    · obtain ⟨_, _, _, _, rfl⟩ := mem_next leaves new
      rfl
    · exact none a (later old)
  -- either this act reports the cancellation or it was reported before
  have window : Cancelled (⟨s, .Dispatch, act.effects, s'⟩ :: past) →
      (reportsCancelled ⟨s, .Dispatch, act.effects, s'⟩ = true ∧ actReports cancels act = true ∧
        postsCancel act = false) ∨ Cancelled past := by
    refine fun cancelled => (cancelled_before cancelled).imp_left fun reports => ⟨reports, ?_⟩
    cases act <;> simp_all [reportsCancelled, Act.effects, actReports, postsCancel]
  have unasked : Cancelled (⟨s, .Dispatch, act.effects, s'⟩ :: past) → ∀ a ∈ s.stream, postsQuery a = false := by
    intro cancelled
    rcases window cancelled with ⟨_, reports, _⟩ | older
    · exact quieted.apart ⟨act, first, reports⟩
    · exact quieted.unasked older
  refine ⟨fun cancelled => plain ?_, heralded_dispatch quieted next leaves, fun cancelled => ?_,
    fun cancelled => plain (unasked cancelled), fun cancelled => ?_⟩
  · obtain ⟨a, member, reports⟩ := cancelled
    rcases List.mem_append.mp member with new | old
    · obtain ⟨report, _, rfl, _, rfl⟩ := mem_next leaves new
      exact quieted.apart ⟨.Make report, first, reports⟩
    · exact quieted.apart ⟨a, later old, reports⟩
  · have settling : Settling s := by
      rcases window cancelled with ⟨_, reports, other⟩ | older
      · refine quieted.heralded act ?_ reports
        rw [next, List.takeWhile_cons_of_pos (by simp [other])]
        exact List.mem_cons_self
      · exact quieted.settling older
    exact settling_act settling (unasked cancelled act first)
  · rw [show ({ act.apply s with stream := left ++ rest } : App R).handler = s.handler by simp]
    rcases window cancelled with ⟨reports, _⟩ | older
    · exact undisturbed.1 reports
    · exact quieted.silent older

/-- An act of the running handler. -/
theorem quieted_handle {act : Act R} {rest left : List (Act R)} (run : Runs (Gateway.machine D T) past s)
    (quieted : Quieted past s) (next : s.handler = act :: rest) (leaves : act.next s = .ok left) :
    Quieted (⟨s, .Handler, act.effects, s'⟩ :: past) { act.apply s with handler := left ++ rest } := by
  have callback := handler_ofCallback run act (by simp [next])
  have older : Cancelled (⟨s, .Handler, act.effects, s'⟩ :: past) → Cancelled past := fun cancelled => by
    refine (cancelled_before cancelled).resolve_left fun reports => ?_
    cases act <;> simp_all [reportsCancelled, Act.effects, ofCallback]
  have settled : Settling s → Settling { act.apply s with handler := left ++ rest } := fun settling => by
    cases act with
    | Post job =>
      cases job with
      | StartTrip => exact settling_post settling rfl rfl (by simp [asksQuery])
      | _ => cases callback
    | _ => exact settling
  refine ⟨by simpa using quieted.apart, ?_, fun cancelled => settled (quieted.settling (older cancelled)),
    fun cancelled => by simpa using quieted.unasked (older cancelled), fun cancelled a member => ?_⟩
  · simpa using heralded_mono settled quieted.heralded
  · have silent := quieted.silent (older cancelled)
    rw [next] at silent
    rcases List.mem_append.mp member with new | old
    · obtain ⟨report, _, rfl, _, rfl⟩ := mem_next leaves new
      exact silent (.Make report) List.mem_cons_self
    · exact silent a (List.mem_cons_of_mem _ old)

/-- In runs whose handlers leave the cancellations alone the application keeps silent. -/
theorem quieted_along (run : Runs (Gateway.machine D T) past s) (undisturbed : Along Undisturbed past) :
    Quieted past s := by
  refine run.invariant_along (I := Quieted) ?_ ?_ undisturbed
  · rintro _ ⟨w, _, rfl⟩
    exact ⟨fun _ _ => nofun, fun _ => nofun, fun ⟨_, later, _⟩ => absurd later List.not_mem_nil, fun _ _ => nofun,
      fun _ _ => nofun⟩
  · intro past s i effects s' earlier quieted stepped undisturbed
    have older : reportsCancelled ⟨s, i, effects, s'⟩ = false → Cancelled (⟨s, i, effects, s'⟩ :: past) →
        Cancelled past := fun silent cancelled => (cancelled_before cancelled).resolve_left (by simp [silent])
    cases step_cases stepped with
    | outside w jobs switches enabled outside _ ctrl posted =>
      have older := older rfl
      have settled : Settling s → Settling
          { s with world := w, strand := s.strand ++ jobs, switches := switches, streamingEnabled := enabled } :=
        fun settling => settling_post settling ctrl rfl fun job member => by
          have outside := posted job member
          cases job <;> first | rfl | cases outside
      exact ⟨quieted.apart, heralded_mono settled quieted.heralded,
        fun cancelled => settled (quieted.settling (older cancelled)),
        fun cancelled => quieted.unasked (older cancelled), fun cancelled => quieted.silent (older cancelled)⟩
    | receive command free =>
      have older := older rfl
      refine ⟨dispatch_apart, dispatch_heralded _ command, fun cancelled => ?_, fun cancelled => ?_, fun cancelled =>
        quieted.silent (older cancelled)⟩
      · exact quieted.settling (older cancelled)
      · intro act member
        by_contra asks
        exact cancelled_opens (dispatch_query free ⟨act, member, by simpa using asks⟩) cancelled
    | run e job rest w os free next ran =>
      have older := older rfl
      refine ⟨quieted.apart, heralded_mono (fun settling => settling_run earlier settling next ran _) quieted.heralded,
        fun cancelled => settling_run earlier (quieted.settling (older cancelled)) next ran _,
        fun cancelled => quieted.unasked (older cancelled), fun cancelled => ?_⟩
      exact silent_run earlier (quieted.settling (older cancelled)) ran fun waits =>
        undisturbed.2 (older cancelled) waits job (by simp [started, free, next])
    | dispatch act rest next left leaves => exact quieted_dispatch quieted next leaves undisturbed
    | handle act rest next left leaves => exact quieted_handle earlier quieted next leaves

/-- In every run whose handlers leave the cancellations alone nothing is reported
    about a trip between its cancellation and the next request. -/
theorem silent_after_cancel (run : Runs (Gateway.machine D T) past s) (undisturbed : Along Undisturbed past) :
    Along Silent past := by
  refine run.along_of_along ?_ undisturbed
  intro past s i effects s' earlier undisturbed stepped _ cancelled report event queued
  rcases queued_cases earlier stepped queued with ⟨_, command⟩ | left
  · cases report <;> first | rfl | simp_all [ofCommand, ofTrip, cancels]
  · exact (quieted_along earlier undisturbed).silent cancelled (.Enqueue report event) left

end

section
attribute [local instance] streetMath

/-- A drive to the pickup that is cancelled. -/
theorem silent_after_cancel_on_street : ∃ past s, Runs (Gateway.machine street {}) past s ∧ Cancelled past ∧
    Along Silent past := by
  obtain ⟨past, s, run, done⟩ := exists_run (M := Gateway.machine street {})
    (s := initialApp (initialWorld .fresh 0))
    (queryTurns 5 ++ pickupTurns 7 ++ commandTurns (.TripCancel vin 5) ++ [.Run (streetAt 24)] ++
      deliveryTurns 25 [.TickTimer]) fresh_wired
    (fun past _ => decide (Cancelled past ∧ Along Undisturbed past)) (by decide +kernel)
  obtain ⟨cancelled, undisturbed⟩ := of_decide_eq_true done
  exact ⟨past, s, run, cancelled, silent_after_cancel run undisturbed⟩

/-- The tick that finds the arrival stands before the cancel handler on the
    strand: the arrival is reported after the cancellation. -/
theorem arrival_after_cancel : ∃ past s, Runs (Gateway.machine street {}) past s ∧ ¬ Along Silent past := by
  obtain ⟨past, s, run, late⟩ := exists_run (M := Gateway.machine street {})
    (s := initialApp (initialWorld .fresh 0))
    (queryTurns 5 ++ pickupTurns 7 ++ [.Deliver .TickTimer] ++ commandTurns (.TripCancel vin 5) ++
      [.Run (streetAt 24)] ++ List.replicate 6 .Handler) fresh_wired
    (fun past _ => match past with
      | m :: older => decide (Cancelled older ∧
          .Queued (.Status "ARRIVED_AT_PICKUP") (.Status vin 7 "ARRIVED_AT_PICKUP") ∈ m.outputs)
      | [] => false)
    (by decide +kernel)
  refine ⟨past, s, run, fun silent => ?_⟩
  cases past with
  | nil => cases late
  | cons m older =>
    obtain ⟨cancelled, arrived⟩ := of_decide_eq_true late
    cases silent.1 cancelled _ _ arrived

end
end AutowareAgent.Cancellation
