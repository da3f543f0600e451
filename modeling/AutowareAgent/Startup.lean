import AutowareAgent.Reports

/-!
How the agent starts. `initialize` posts the construction of the controller to the
strand before anything else can be posted, and the timer, the stream's reader and
the strand go on at once. The handlers check whether there is a controller; none of
them ever finds that there is not, and what others see of the agent is what they
see of the application whose controller was there from the beginning.
-/
namespace AutowareAgent.Startup
open AutowareAgent.Machines AutowareAgent.Lanes AutowareAgent.LaneCache AutowareAgent.Trips AutowareAgent.Strand
open AutowareAgent.Gateway AutowareAgent.Reports

/-- What is posted to the strand: the construction of the controller, or a handler. -/
inductive Posted (R : Type)
  | Initialize
  | Handler (job : Job R)

/-- The application's state, in which there need not be a controller yet. -/
structure Agent (R : Type) where
  laneletMap : LaneletMap R
  tripCtrl : Option (World R Int64)
  strand : List (Posted R)
  handler : List (Act R)
  stream : List (Act R)
  activeTripId : Int64
  currentRequestId : Int64
  switches : List Bool
  streamingEnabled : Bool
  etaAdapter : Bool

section
variable {R : Type} [Zero R]

/-- `getTripStatusSync`. -/
def getTripStatusSync (s : Agent R) : TripStatus R :=
  match s.tripCtrl with
  | some w => w.ctrl.status
  | none => .initial

omit [Zero R] in
/-- The request identifier of `GetEta`, while the adapter is there. -/
def getEta (s : Agent R) : Except Fault Int64 :=
  if s.etaAdapter then .ok s.currentRequestId else .error .DestroyedAdapter

/-- The event that a report function makes up. -/
def eventOf (s : Agent R) : Report R → Except Fault (VehicleEvent R)
  | .TripInitAck => .ok (.TripInitAck true "accepted")
  | .TripCancelAck success => .ok (.TripCancelAck success "")
  | .OrderUpdateLocationAck success => .ok (.OrderUpdateLocationAck success "")
  | .Location position => .ok (.Location vin position)
  | .Eta _ timeSeconds fare => (getEta s).map fun requestId => .Eta vin requestId timeSeconds fare "COMPLETED"
  | .Status status => .ok (.Status vin s.activeTripId status)
  | .Arrive => .ok (.Arrive vin s.activeTripId (getTripStatusSync s).currentGps)

/-- What an act leaves its thread to do at once. -/
def next (s : Agent R) : Act R → Except Fault (List (Act R))
  | .Make report => (eventOf s report).map fun event => [.Enqueue report event]
  | _ => .ok []

/-- A message is posted where the controller has subscribed to it; the timer is there before. -/
def posts (s : Agent R) : Delivery R → Bool
  | .TickTimer => true
  | _ => s.tripCtrl.isSome

omit [Zero R] in
/-- What an act changes. -/
def carryOut (s : Agent R) : Act R → Agent R
  | .SetActiveTripId id => { s with activeTripId := id }
  | .SetRequestId id => { s with currentRequestId := id }
  | .Post job => { s with strand := s.strand ++ [.Handler job] }
  | .SetStreaming enabled => { s with switches := s.switches ++ [enabled] }
  | .Make _ | .Enqueue _ _ => s

end

section
variable {R : Type} [Zero R] [Add R] [Sub R] [Mul R] [Div R] [NatCast R] [LT R] [DecidableLT R] [CMath R]

/-- The callback of a handler that finds no controller. -/
def refuse : Job R → List (Act R)
  | .QueryEta requestId _ _ => etaCallback requestId { EtaQueryResult.initial with errorMessage := "not initialized" }
  | .GetTripStatus => [.Make (.Location (TripStatus.initial : TripStatus R).currentGps)]
  | _ => []

def step (D : MapData R) (T : TripTimings) (s : Agent R) : Turn R → Except Fault (Agent R × List (Effect R))
  | .Receive command => .ok (if s.stream = [] then { s with stream := dispatch command } else s, [])
  | .Dispatch =>
    match s.stream with
    | [] => .ok (s, [])
    | act :: rest => do
      let left ← next s act
      return ({ carryOut s act with stream := left ++ rest }, act.effects)
  | .Deliver delivery =>
    .ok (if posts s delivery then { s with strand := s.strand ++ [.Handler (.Deliver delivery)] } else s, [])
  | .ModeResponse seq success =>
    match s.tripCtrl with
    | none => .ok (s, [])
    | some w => do
      let (w, _) ← Strand.step D T w (.ModeResponse seq success)
      return ({ s with tripCtrl := some w }, [])
  | .EngageResponse seq code =>
    match s.tripCtrl with
    | none => .ok (s, [])
    | some w => do
      let (w', _) ← Strand.step D T w (.EngageResponse seq code)
      let posted := if seq ∈ w.engageCalls ∧ code = 1 then [.Handler (.Engaged seq)] else []
      return ({ s with tripCtrl := some w', strand := s.strand ++ posted }, [])
  | .Run e =>
    match s.handler, s.strand with
    | [], .Initialize :: rest =>
      .ok ({ s with tripCtrl := some (initialWorld s.laneletMap e.now), strand := rest }, [])
    | [], .Handler job :: rest =>
      match s.tripCtrl with
      | none => .ok ({ s with strand := rest, handler := refuse job }, [.Ran job []])
      | some w => do
        let (w, os) ← burst (Strand.machine D T) w (job.inputs D e)
        return ({ s with tripCtrl := some w, strand := rest, handler := job.callbacks w os }, [.Ran job os])
    | _, _ => .ok (s, [])
  | .Handler =>
    match s.handler with
    | [] => .ok (s, [])
    | act :: rest => do
      let left ← next s act
      return ({ carryOut s act with handler := left ++ rest }, act.effects)
  | .Switch =>
    match s.switches with
    | [] => .ok (s, [])
    | enabled :: rest => .ok ({ s with switches := rest, streamingEnabled := enabled }, [])
  | .Returns => .ok ({ s with etaAdapter := false }, [])

/-- The agent once `initialize` has returned, over a map that served any calls before. -/
def machine (D : MapData R) (T : TripTimings) : Machine (Agent R) (Turn R) (Effect R) Fault where
  Start s := ∃ m : LaneletMap R, Reachable (server D) m ∧ s =
    { laneletMap := m, tripCtrl := none, strand := [.Initialize], handler := [], stream := [], activeTripId := 0
      currentRequestId := 0, switches := [], streamingEnabled := false, etaAdapter := true }
  step := step D T

/-! ### The application that it is -/

/-- The handlers among what is posted. -/
def handlerOf : Posted R → Option (Job R)
  | .Initialize => none
  | .Handler job => some job

omit [Zero R] [Add R] [Sub R] [Mul R] [Div R] [NatCast R] [LT R] [DecidableLT R] [CMath R] in
theorem handlers_map (jobs : List (Job R)) : (jobs.map Posted.Handler).filterMap handlerOf = jobs := by
  induction jobs with
  | nil => rfl
  | cons job rest ih => exact congrArg (job :: ·) ih

/-- The application whose controller is the one given. -/
def asApp (s : Agent R) (w : World R Int64) : App R where
  world := w
  strand := s.strand.filterMap handlerOf
  handler := s.handler
  stream := s.stream
  activeTripId := s.activeTripId
  currentRequestId := s.currentRequestId
  switches := s.switches
  streamingEnabled := s.streamingEnabled
  etaAdapter := s.etaAdapter

variable {D : MapData R} {T : TripTimings}

/-- The application has a run that others see like a run of the agent. -/
def Mirrored (D : MapData R) (T : TripTimings) (past : History (Agent R) (Turn R) (Effect R)) (app : App R) : Prop :=
  ∃ past', Runs (Gateway.machine D T) past' app ∧ outputs past' = outputs past

/-- The controller is there and everything posted is a handler, or its construction is
    what the strand does first, and it does not matter when that will be. -/
def Started (D : MapData R) (T : TripTimings) (past : History (Agent R) (Turn R) (Effect R)) (s : Agent R) : Prop :=
  match s.tripCtrl with
  | none => s.handler = [] ∧ (∃ jobs : List (Job R), s.strand = .Initialize :: jobs.map .Handler) ∧
      ∀ now, Mirrored D T past (asApp s (initialWorld s.laneletMap now))
  | some w => (∃ jobs : List (Job R), s.strand = jobs.map .Handler) ∧ Mirrored D T past (asApp s w)

section
variable {past : History (Agent R) (Turn R) (Effect R)} {s s' : Agent R} {app : App R}

theorem started_none (up : s.tripCtrl = none) : Started D T past s ↔
    s.handler = [] ∧ (∃ jobs : List (Job R), s.strand = .Initialize :: jobs.map .Handler) ∧
      ∀ now, Mirrored D T past (asApp s (initialWorld s.laneletMap now)) := by
  rw [Started, up]

theorem started_some {w : World R Int64} (up : s.tripCtrl = some w) : Started D T past s ↔
    (∃ jobs : List (Job R), s.strand = jobs.map .Handler) ∧ Mirrored D T past (asApp s w) := by
  rw [Started, up]

theorem Mirrored.stay (mirrored : Mirrored D T past app) (i : Turn R) :
    Mirrored D T (⟨s, i, [], s'⟩ :: past) app := by
  obtain ⟨past', run, same⟩ := mirrored
  exact ⟨past', run, by rw [outputs_cons, List.append_nil, same]⟩

theorem Mirrored.step {app' : App R} {i : Turn R} {effects : List (Effect R)} (mirrored : Mirrored D T past app)
    (stepped : Gateway.step D T app i = .ok (app', effects)) : Mirrored D T (⟨s, i, effects, s'⟩ :: past) app' := by
  obtain ⟨past', run, same⟩ := mirrored
  exact ⟨_, run.step stepped, by rw [outputs_cons, outputs_cons, same]⟩

end

omit [Zero R] [Add R] [Sub R] [Mul R] [Div R] [NatCast R] [LT R] [DecidableLT R] [CMath R] in
/-- An act does to the agent what it does to the application. -/
theorem asApp_carryOut (s : Agent R) (w : World R Int64) (act : Act R) :
    asApp (carryOut s act) w = act.apply (asApp s w) := by
  cases act <;> simp [carryOut, asApp, Act.apply, handlerOf]

omit [Add R] [Sub R] [Mul R] [Div R] [NatCast R] [LT R] [DecidableLT R] [CMath R] in
/-- What it leaves to do is the same where the controller is there, and in a reply to a command. -/
theorem asApp_next {s : Agent R} {w : World R Int64} {act : Act R}
    (known : s.tripCtrl = some w ∨ ofCommand act = true) : act.next (asApp s w) = next s act := by
  cases act with
  | Make report =>
    rcases known with there | command
    · cases report with
      | Arrive => simp [Act.next, next, Report.event, eventOf, asApp, getTripStatusSync, there]
      | _ => rfl
    · cases report <;> first | rfl | cases command
  | _ => rfl

/-! ### Steps -/

/-- What neither the strand nor a service does. -/
def ofThread (s : Agent R) : Turn R → Bool
  | .Receive _ | .Dispatch | .Handler | .Switch | .Returns => true
  | .Deliver delivery => posts s delivery
  | .ModeResponse _ _ | .EngageResponse _ _ | .Run _ => false

section
variable {past : History (Agent R) (Turn R) (Effect R)} {s s' : Agent R} {i : Turn R} {effects : List (Effect R)}

/-- The threads do in the agent what they do in the application, with the controller or before it is there. -/
theorem thread_step {w : World R Int64} (thread : ofThread s i = true) (stepped : step D T s i = .ok (s', effects))
    (known : s.tripCtrl = some w ∨ s.handler = [] ∧ ∀ act ∈ s.stream, ofCommand act = true) :
    Gateway.step D T (asApp s w) i = .ok (asApp s' w, effects) ∧ s'.tripCtrl = s.tripCtrl ∧
      s'.laneletMap = s.laneletMap ∧ (s.handler = [] → s'.handler = []) ∧
      ∃ jobs : List (Job R), s'.strand = s.strand ++ jobs.map .Handler := by
  have acts : ∀ act, (carryOut s act).tripCtrl = s.tripCtrl ∧ (carryOut s act).laneletMap = s.laneletMap ∧
      (carryOut s act).handler = s.handler ∧
      ∃ jobs : List (Job R), (carryOut s act).strand = s.strand ++ jobs.map .Handler := by
    intro act
    cases act with
    | Post job => exact ⟨rfl, rfl, rfl, [job], rfl⟩
    | _ => exact ⟨rfl, rfl, rfl, [], (List.append_nil _).symm⟩
  cases i with
  | Receive command =>
    cases stepped
    by_cases free : s.stream = [] <;> refine ⟨?_, ?_, ?_, ?_, [], ?_⟩ <;> simp [Gateway.step, asApp, free]
  | Dispatch =>
    cases next : s.stream with
    | nil =>
      simp only [step, next] at stepped
      cases stepped
      exact ⟨by simp [Gateway.step, asApp, next], rfl, rfl, id, [], (List.append_nil _).symm⟩
    | cons act rest =>
      simp only [step, next] at stepped
      obtain ⟨left, leaves, ended⟩ := bind_ok stepped
      cases ended
      rw [← asApp_next (w := w) (known.imp_right fun early => early.2 act (by simp [next]))] at leaves
      obtain ⟨there, same, quiet, jobs, posted⟩ := acts act
      have front : (asApp s w).stream = act :: rest := next
      have ends : asApp { carryOut s act with stream := left ++ rest } w =
          { act.apply (asApp s w) with stream := left ++ rest } := by
        rw [← asApp_carryOut]
        rfl
      refine ⟨?_, there, same, fun free => quiet.trans free, jobs, posted⟩
      rw [ends]
      simp only [Gateway.step, front, leaves]
      rfl
  | Handler =>
    cases next : s.handler with
    | nil =>
      simp only [step, next] at stepped
      cases stepped
      exact ⟨by simp [Gateway.step, asApp, next], rfl, rfl, fun _ => next, [], (List.append_nil _).symm⟩
    | cons act rest =>
      simp only [step, next] at stepped
      obtain ⟨left, leaves, ended⟩ := bind_ok stepped
      cases ended
      have up : s.tripCtrl = some w := known.resolve_right (by simp [next])
      rw [← asApp_next (.inl up)] at leaves
      obtain ⟨there, same, _, jobs, posted⟩ := acts act
      have front : (asApp s w).handler = act :: rest := next
      have ends : asApp { carryOut s act with handler := left ++ rest } w =
          { act.apply (asApp s w) with handler := left ++ rest } := by
        rw [← asApp_carryOut]
        rfl
      refine ⟨?_, there, same, by simp, jobs, posted⟩
      rw [ends]
      simp only [Gateway.step, front, leaves]
      rfl
  | Switch =>
    cases next : s.switches with
    | nil =>
      simp only [step, next] at stepped
      cases stepped
      exact ⟨by simp [Gateway.step, asApp, next], rfl, rfl, id, [], (List.append_nil _).symm⟩
    | cons enabled rest =>
      simp only [step, next] at stepped
      cases stepped
      exact ⟨by simp [Gateway.step, asApp, next], rfl, rfl, id, [], (List.append_nil _).symm⟩
  | Deliver delivery =>
    simp only [step, if_pos (show posts s delivery = true from thread)] at stepped
    cases stepped
    exact ⟨by simp [Gateway.step, asApp, handlerOf], rfl, rfl, id, [.Deliver delivery], rfl⟩
  | Returns =>
    cases stepped
    exact ⟨rfl, rfl, rfl, id, [], (List.append_nil _).symm⟩
  | ModeResponse _ _ | EngageResponse _ _ | Run _ => cases thread

/-- While the construction waits, whatever is done before it mirrors the application that it will make. -/
theorem early_step (up : s.tripCtrl = none) (started : Started D T past s)
    (stepped : step D T s i = .ok (s', effects)) : Started D T (⟨s, i, effects, s'⟩ :: past) s' := by
  obtain ⟨free, ⟨jobs, queue⟩, mirrored⟩ := (started_none up).mp started
  by_cases thread : ofThread s i = true
  · -- whenever the construction will be, the threads do the same
    have commands : ∀ act ∈ s.stream, ofCommand act = true := by
      obtain ⟨_, run, _⟩ := mirrored 0
      exact stream_ofCommand run
    have steps := fun w : World R Int64 => thread_step (w := w) thread stepped (.inr ⟨free, commands⟩)
    obtain ⟨_, none, same, quiet, more, posted⟩ := steps (initialWorld s.laneletMap 0)
    refine (started_none (none.trans up)).mpr ⟨quiet free, ⟨jobs ++ more, ?_⟩, fun now => ?_⟩
    · rw [posted, queue, List.map_append, List.cons_append]
    · rw [same]
      exact (mirrored now).step (steps _).1
  · cases i with
    | Receive _ | Dispatch | Handler | Switch | Returns => exact absurd rfl thread
    | Deliver delivery =>
      simp only [step, if_neg (show ¬ posts s delivery = true from thread)] at stepped
      cases stepped
      exact (started_none up).mpr ⟨free, ⟨jobs, queue⟩, fun now => (mirrored now).stay _⟩
    | ModeResponse _ _ | EngageResponse _ _ =>
      simp only [step, up] at stepped
      cases stepped
      exact (started_none up).mpr ⟨free, ⟨jobs, queue⟩, fun now => (mirrored now).stay _⟩
    | Run e =>
      simp only [step, free, queue] at stepped
      cases stepped
      have same : ∀ w, asApp { s with
          tripCtrl := some (initialWorld s.laneletMap e.now), strand := jobs.map .Handler, handler := [] } w =
            asApp s w := by
        intro w
        unfold asApp
        rw [queue, free]
        rfl
      refine (started_some rfl).mpr ⟨⟨jobs, rfl⟩, ?_⟩
      rw [same]
      exact (mirrored e.now).stay _

/-- A handler runs in the agent as it does in the application. -/
theorem handler_step {w : World R Int64} {jobs : List (Job R)} {e : Env R} (up : s.tripCtrl = some w)
    (queue : s.strand = jobs.map .Handler) (stepped : step D T s (.Run e) = .ok (s', effects)) :
    s' = s ∧ effects = [] ∨ ∃ w' rest, s'.tripCtrl = some w' ∧ s'.strand = List.map .Handler rest ∧
      Gateway.step D T (asApp s w) (.Run e) = .ok (asApp s' w', effects) := by
  cases busy : s.handler with
  | cons act rest =>
    simp only [step, busy] at stepped
    cases stepped
    exact .inl ⟨rfl, rfl⟩
  | nil =>
    cases jobs with
    | nil =>
      simp only [step, busy, queue, List.map_nil] at stepped
      cases stepped
      exact .inl ⟨rfl, rfl⟩
    | cons job rest =>
      simp only [step, busy, queue, List.map_cons, up] at stepped
      obtain ⟨⟨w', os⟩, ran, ended⟩ := bind_ok stepped
      cases ended
      have front : (asApp s w).strand = job :: rest := by
        unfold asApp
        rw [queue]
        exact handlers_map (job :: rest)
      have world : (asApp s w).world = w := rfl
      have idle : (asApp s w).handler = [] := busy
      have ends : Gateway.step D T (asApp s w) (.Run e) = .ok ({ asApp s w with
          world := w', strand := rest, handler := job.callbacks w' os }, [.Ran job os]) := by
        simp only [Gateway.step, idle, front, world, ran]
        rfl
      refine .inr ⟨w', rest, rfl, rfl, ends.trans ?_⟩
      simp only [asApp, handlers_map]

/-- Once the controller is there, every step of the agent is one of the application. -/
theorem late_step {w : World R Int64} (up : s.tripCtrl = some w) (started : Started D T past s)
    (stepped : step D T s i = .ok (s', effects)) : Started D T (⟨s, i, effects, s'⟩ :: past) s' := by
  obtain ⟨⟨jobs, queue⟩, mirrored⟩ := (started_some up).mp started
  by_cases thread : ofThread s i = true
  · obtain ⟨steps, there, _, _, more, posted⟩ := thread_step thread stepped (.inl up)
    refine (started_some (there.trans up)).mpr ⟨⟨jobs ++ more, ?_⟩, mirrored.step steps⟩
    rw [posted, queue, List.map_append]
  · cases i with
    | Receive _ | Dispatch | Handler | Switch | Returns => exact absurd rfl thread
    | Deliver delivery =>
      have subscribed : posts s delivery = true := by cases delivery <;> simp [posts, up]
      exact absurd subscribed thread
    | ModeResponse seq success =>
      simp only [step, up] at stepped
      obtain ⟨⟨w', os⟩, answered, rest⟩ := bind_ok stepped
      cases rest
      refine (started_some rfl).mpr ⟨⟨jobs, queue⟩, mirrored.step ?_⟩
      have world : (asApp s w).world = w := rfl
      simp only [Gateway.step, world, answered]
      rfl
    | EngageResponse seq code =>
      simp only [step, up] at stepped
      obtain ⟨⟨w', os⟩, answered, rest⟩ := bind_ok stepped
      cases rest
      have world : (asApp s w).world = w := rfl
      by_cases engaged : seq ∈ w.engageCalls ∧ code = 1
      · refine (started_some rfl).mpr ⟨⟨jobs ++ [.Engaged seq], ?_⟩, mirrored.step ?_⟩
        · simp [queue, engaged]
        · simp only [Gateway.step, world, answered, if_pos engaged]
          simp [asApp, handlerOf, bind, Except.bind, pure, Except.pure]
      · refine (started_some rfl).mpr ⟨⟨jobs, ?_⟩, mirrored.step ?_⟩
        · simp [queue, engaged]
        · simp only [Gateway.step, world, answered, if_neg engaged]
          simp [asApp, bind, Except.bind, pure, Except.pure]
    | Run e =>
      rcases handler_step up queue stepped with ⟨rfl, rfl⟩ | ⟨w', rest, there, left, steps⟩
      · exact (started_some up).mpr ⟨⟨jobs, queue⟩, mirrored.stay _⟩
      · exact (started_some there).mpr ⟨⟨rest, left⟩, mirrored.step steps⟩

theorem started_step (started : Started D T past s) (stepped : step D T s i = .ok (s', effects)) :
    Started D T (⟨s, i, effects, s'⟩ :: past) s' := by
  cases up : s.tripCtrl with
  | none => exact early_step up started stepped
  | some w => exact late_step up started stepped

/-- A handler that runs finds the controller. -/
theorem ran_ready (started : Started D T past s) (stepped : step D T s i = .ok (s', effects)) {job : Job R}
    {os : List (Output R Int64)} (ran : .Ran job os ∈ effects) : s.tripCtrl.isSome = true := by
  cases up : s.tripCtrl with
  | some w => rfl
  | none =>
    obtain ⟨free, ⟨jobs, queue⟩, _⟩ := (started_none up).mp started
    have acts : ∀ act : Act R, .Ran job os ∉ act.effects := by
      intro act
      cases act <;> simp [Act.effects]
    cases i with
    | Dispatch =>
      cases next : s.stream with
      | nil =>
        simp only [step, next] at stepped
        cases stepped
        cases ran
      | cons act rest =>
        simp only [step, next] at stepped
        obtain ⟨left, _, ended⟩ := bind_ok stepped
        cases ended
        exact absurd ran (acts act)
    | Switch =>
      simp only [step] at stepped
      split at stepped <;> cases stepped <;> cases ran
    | _ =>
      simp only [step, up, free, queue] at stepped
      cases stepped
      cases ran

end

/-- In every run of the agent from its start no handler finds that there is no controller;
    and once there is one, the application has been in the same state after a run of
    its own, of which others have seen the same. -/
theorem starts_up {past : History (Agent R) (Turn R) (Effect R)} {s : Agent R} (run : Runs (machine D T) past s) :
    Along (fun _ m => ∀ job os, .Ran job os ∈ m.outputs → m.pre.tripCtrl.isSome = true) past ∧
      ∀ w, s.tripCtrl = some w →
        ∃ past', Runs (Gateway.machine D T) past' (asApp s w) ∧ outputs past' = outputs past := by
  have started : ∀ {past s}, Runs (machine D T) past s → Started D T past s := by
    intro past s run
    refine run.invariant (I := Started D T) ?_ fun past s i effects s' _ started stepped =>
      started_step started stepped
    rintro _ ⟨m, served, rfl⟩
    exact ⟨rfl, ⟨[], rfl⟩, fun now => ⟨[], .start ⟨_, ⟨m, now, served, rfl⟩, rfl⟩, rfl⟩⟩
  refine ⟨run.along fun past s i effects s' earlier stepped job os ran =>
    ran_ready (started earlier) stepped ran, fun w up => ?_⟩
  exact ((started_some up).mp (started run)).2

end

section
attribute [local instance] streetMath

/-- A location is asked for before there is a controller. -/
theorem starts_up_on_street : ∃ past s w, Runs (machine street {}) past s ∧ s.tripCtrl = some w ∧
    outputs past = [.Queued (.OrderUpdateLocationAck true) (.OrderUpdateLocationAck true ""), .Ran .GetTripStatus [],
      .Queued (.Location ⟨0, 0⟩) (.Location vin ⟨0, 0⟩)] ∧
    Along (fun _ m => ∀ job os, .Ran job os ∈ m.outputs → m.pre.tripCtrl.isSome = true) past ∧
    ∃ past', Runs (Gateway.machine street {}) past' (asApp s w) ∧ outputs past' = outputs past := by
  obtain ⟨past, s, run, passes⟩ := exists_run (M := machine street {})
    (s := ⟨.fresh, none, [.Initialize], [], [], 0, 0, [], false, true⟩)
    (commandTurns (.OrderUpdateLocation vin) ++
      [.Deliver .TickTimer, .Run (streetAt 1), .Run (streetAt 2), .Handler, .Handler]) ⟨_, fresh_served _, rfl⟩
    (fun past s => decide (s.tripCtrl.isSome = true ∧ outputs past =
      [.Queued (.OrderUpdateLocationAck true) (.OrderUpdateLocationAck true ""), .Ran .GetTripStatus [],
        .Queued (.Location ⟨0, 0⟩) (.Location vin ⟨0, 0⟩)])) (by decide +kernel)
  obtain ⟨up, seen⟩ := of_decide_eq_true passes
  obtain ⟨w, there⟩ := Option.isSome_iff_exists.mp up
  obtain ⟨ready, mirrored⟩ := starts_up run
  exact ⟨past, s, w, run, there, seen, ready, mirrored w there⟩

end
end AutowareAgent.Startup
