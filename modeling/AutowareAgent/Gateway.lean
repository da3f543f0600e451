import AutowareAgent.Strand

/-!
The application around the controller. Two threads share an active trip
identifier, a current request identifier and the queue of events for the
gateway: the stream's reader, which dispatches the commands it reads, and the
strand's, which runs the posted handlers one at a time in their order, with the
callbacks that the application wired to them. What a thread still has to do is a
list of acts; other threads come in between any two of them. An event is made up
from the shared identifiers in one act and put on the queue in the next. The
runs begin when the application is wired. `startAutowareApp` still has to return
then, and with it goes the adapter that `ReportEta` asks for the request.
-/
namespace AutowareAgent.Gateway
open AutowareAgent.Machines AutowareAgent.Lanes AutowareAgent.LaneCache AutowareAgent.Trips AutowareAgent.Strand

/-- The vehicle's own number. -/
def vin : String := "ORIN_NANO_001"

/-- What the gateway asks for. The fields that nothing reads are left out. -/
inductive GatewayCommand (R : Type)
  | TripInit (vinNumber : String) (requestId : Int64) (start goal : GPSCoordinate R)
  | TripMove (vinNumber : String) (tripId : Int64)
  | TripPark (vinNumber : String)
  | OrderUpdateLocation (vinNumber : String)
  | OrderUpdateStatus (vinNumber : String)
  | TripCancel (vinNumber : String) (requestId : Int64)
  | NotSet
  deriving DecidableEq, Repr

/-- What the gateway is told. -/
inductive VehicleEvent (R : Type)
  | TripInitAck (success : Bool) (message : String)
  | TripCancelAck (success : Bool) (message : String)
  | OrderUpdateLocationAck (success : Bool) (message : String)
  | Location (vinNumber : String) (position : GPSCoordinate R)
  | Eta (vinNumber : String) (requestId : Int64) (time fare : R) (status : String)
  | Status (vinNumber : String) (tripId : Int64) (status : String)
  | Arrive (vinNumber : String) (tripId : Int64) (position : GPSCoordinate R)
  deriving DecidableEq, Repr

/-- The calls of the client's report functions. `ReportEta` also carries the
    request whose callback makes the call, which the source does not pass on. -/
inductive Report (R : Type)
  | TripInitAck
  | TripCancelAck (success : Bool)
  | OrderUpdateLocationAck (success : Bool)
  | Location (position : GPSCoordinate R)
  | Eta (asked : Int64) (timeSeconds fare : R)
  | Status (status : String)
  | Arrive
  deriving DecidableEq, Repr

/-- What ROS brings to the strand: the timer and the messages. -/
inductive Delivery (R : Type)
  | TickTimer
  | LocState (state : LocState)
  | RouteState (state : RouteState)
  | ModeState (autonomousAvailable : Bool)
  | Route (route : LaneletRoute)
  | Eta (distanceM timeSeconds : R)
  deriving DecidableEq, Repr

/-- A handler that is posted to the strand. A move command keeps the identifier
    it came with, which the source does not pass on. -/
inductive Job (R : Type)
  | QueryEta (requestId : Int64) (start goal : GPSCoordinate R)
  | StartTrip
  | HandleMoveCommand (tripId : Int64)
  | CancelTrip
  | GetTripStatus
  | Engaged (seq : Nat)
  | Deliver (delivery : Delivery R)
  deriving DecidableEq, Repr

/-- One thing that a thread does. -/
inductive Act (R : Type)
  | SetActiveTripId (id : Int64)
  | SetRequestId (id : Int64)
  | Post (job : Job R)
  | Make (report : Report R)
  | Enqueue (report : Report R) (event : VehicleEvent R)
  | SetStreaming (enabled : Bool)
  deriving DecidableEq, Repr

/-- The application's state: the controller and its service requests, the jobs
    on the strand, the acts that the running handler and the dispatched command
    still have to do, the shared identifiers, and the switches that wait on the
    location bridge's own strand; and whether the adapter that the client's
    `eta_provider_` points to is still there. -/
structure App (R : Type) where
  world : World R Int64
  strand : List (Job R)
  handler : List (Act R)
  stream : List (Act R)
  activeTripId : Int64
  currentRequestId : Int64
  switches : List Bool
  streamingEnabled : Bool
  etaAdapter : Bool
  deriving DecidableEq, Repr

/-- What happens next: `Read` returns a command, a thread does its next act, ROS
    delivers something, a service answers, the strand takes its next handler,
    the location bridge its next switch, `startAutowareApp` returns. -/
inductive Turn (R : Type)
  | Receive (command : GatewayCommand R)
  | Dispatch
  | Deliver (delivery : Delivery R)
  | ModeResponse (seq : Nat) (success : Bool)
  | EngageResponse (seq : Nat) (code : Nat)
  | Run (e : Env R)
  | Handler
  | Switch
  | Returns
  deriving DecidableEq, Repr

/-- What others see: an event on the queue, or a handler that ran. -/
inductive Effect (R : Type)
  | Queued (report : Report R) (event : VehicleEvent R)
  | Ran (job : Job R) (outputs : List (Output R Int64))
  deriving DecidableEq, Repr

section
variable {R : Type}

/-! ### Commands -/

/-- The number that the read loop compares; a command without content has none. -/
def GatewayCommand.vinNumber : GatewayCommand R → String
  | .TripInit v _ _ _ | .TripMove v _ | .TripPark v | .OrderUpdateLocation v | .OrderUpdateStatus v
  | .TripCancel v _ => v
  | .NotSet => ""

/-- The read loop, with the handlers that the application sets. -/
def dispatch (command : GatewayCommand R) : List (Act R) :=
  if command.vinNumber ≠ vin then []
  else
    match command with
    | .TripInit _ requestId start goal =>
      [.SetActiveTripId requestId, .SetRequestId requestId, .Post (.QueryEta requestId start goal)]
    | .TripMove _ tripId => [.SetActiveTripId tripId, .Post (.HandleMoveCommand tripId)]
    | .OrderUpdateLocation _ => [.Make (.OrderUpdateLocationAck true), .Post .GetTripStatus]
    | .TripCancel _ _ => [.Post .CancelTrip, .Make (.TripCancelAck true), .Make (.Status "CANCELLED")]
    | .TripPark _ | .OrderUpdateStatus _ | .NotSet => []

/-! ### Reports -/

/-- The request identifier of `GetEta`. The client calls it through a plain pointer;
    the adapter belongs to `startAutowareApp` alone. -/
def getEta (s : App R) : Except Fault Int64 :=
  if s.etaAdapter then .ok s.currentRequestId else .error .DestroyedAdapter

theorem getEta_ok {s : App R} {requestId : Int64} (read : getEta s = .ok requestId) :
    s.etaAdapter = true ∧ requestId = s.currentRequestId := by
  unfold getEta at read
  split at read <;> cases read
  exact ⟨‹_›, rfl⟩

/-- The event that a report function makes up. -/
def Report.event (s : App R) : Report R → Except Fault (VehicleEvent R)
  | .TripInitAck => .ok (.TripInitAck true "accepted")
  | .TripCancelAck success => .ok (.TripCancelAck success "")
  | .OrderUpdateLocationAck success => .ok (.OrderUpdateLocationAck success "")
  | .Location position => .ok (.Location vin position)
  | .Eta _ timeSeconds fare => (getEta s).map fun requestId => .Eta vin requestId timeSeconds fare "COMPLETED"
  | .Status status => .ok (.Status vin s.activeTripId status)
  | .Arrive => .ok (.Arrive vin s.activeTripId s.world.ctrl.status.currentGps)

/-- What an act changes. -/
def Act.apply (s : App R) : Act R → App R
  | .SetActiveTripId id => { s with activeTripId := id }
  | .SetRequestId id => { s with currentRequestId := id }
  | .Post job => { s with strand := s.strand ++ [job] }
  | .SetStreaming enabled => { s with switches := s.switches ++ [enabled] }
  | .Make _ | .Enqueue _ _ => s

/-- What an act leaves its thread to do at once. -/
def Act.next (s : App R) : Act R → Except Fault (List (Act R))
  | .Make report => (report.event s).map fun event => [.Enqueue report event]
  | _ => .ok []

def Act.effects : Act R → List (Effect R)
  | .Enqueue report event => [.Queued report event]
  | _ => []

section
variable (s : App R) (act : Act R)

@[simp] theorem apply_world : (act.apply s).world = s.world := by cases act <;> rfl
@[simp] theorem apply_handler : (act.apply s).handler = s.handler := by cases act <;> rfl
@[simp] theorem apply_stream : (act.apply s).stream = s.stream := by cases act <;> rfl
@[simp] theorem apply_etaAdapter : (act.apply s).etaAdapter = s.etaAdapter := by cases act <;> rfl
end

/-- The callback on state changes. -/
def tripStateCallback (next : TripState) : List (Act R) :=
  match next with
  | .WaitingForMove => [.Make .TripInitAck, .Make .Arrive, .Make (.Status "ARRIVED_AT_PICKUP"), .SetStreaming false]
  | .DrivingToPickup => [.SetStreaming true]
  | .Running => [.Make (.Status "IN_PROGRESS")]
  | .Completed => [.Make .Arrive, .Make (.Status "COMPLETED")]
  | .Failed => [.Make (.Status "ERROR")]
  | _ => []

end

section
variable {R : Type} [Zero R] [Add R] [Sub R] [Mul R] [Div R] [NatCast R] [LT R] [DecidableLT R] [CMath R]

/-- `calculate_fare`. -/
def calculateFare (distanceM timeSeconds : R) : R :=
  let distanceKm := distanceM / (1000 : ℕ)
  let timeMin := timeSeconds / (60 : ℕ)
  (5 : ℕ) + distanceKm * (2 : ℕ) + timeMin * ((1 : ℕ) / (2 : ℕ))

/-- The callback of a query. -/
def etaCallback (asked : Int64) (r : EtaQueryResult R) : List (Act R) :=
  if r.success then
    [.Make (.Eta asked (r.pickupLeg.etaSeconds + r.tripLeg.etaSeconds)
      (calculateFare r.tripLeg.distanceM r.tripLeg.etaSeconds)), .Post .StartTrip]
  else []

/-- The callback that an output of the controller calls. -/
def callback : Output R Int64 → List (Act R)
  | .StateChange _ next => tripStateCallback next
  | .QueryResult asked result => etaCallback asked result
  | _ => []

/-! ### The strand -/

/-- What a posted handler does to the controller; the timer's first sets the position. -/
def Job.inputs (D : MapData R) (e : Env R) : Job R → List (Input R Int64)
  | .QueryEta requestId start goal => [.Handle e (.QueryEta start goal (some requestId))]
  | .StartTrip => [.Handle e .StartTrip]
  | .HandleMoveCommand _ => [.Handle e .HandleMoveCommand]
  | .CancelTrip => [.Handle e .Cancel]
  | .GetTripStatus => []
  | .Engaged seq => [.Acknowledge e seq]
  | .Deliver .TickTimer =>
    ((getCurrentVehiclePose D e.tf).map fun pose => .Handle e (.SetCurrentGps pose)).toList ++ [.Handle e .Tick]
  | .Deliver (.LocState state) => [.Handle e (.LocState state)]
  | .Deliver (.RouteState state) => [.Handle e (.RouteState state)]
  | .Deliver (.ModeState autonomousAvailable) => [.Handle e (.ModeState autonomousAvailable)]
  | .Deliver (.Route route) => [.Handle e (.Route route)]
  | .Deliver (.Eta distanceM timeSeconds) => [.Handle e (.Eta distanceM timeSeconds)]

/-- What the callbacks of a handler do: those of its outputs, or that of `getTripStatus`. -/
def Job.callbacks (w : World R Int64) (os : List (Output R Int64)) : Job R → List (Act R)
  | .GetTripStatus => [.Make (.Location w.ctrl.status.currentGps)]
  | _ => os.flatMap callback

/-! ### The machine -/

/-- A thread does the first of its acts. -/
def step (D : MapData R) (T : TripTimings) (s : App R) : Turn R → Except Fault (App R × List (Effect R))
  | .Receive command => .ok (if s.stream = [] then { s with stream := dispatch command } else s, [])
  | .Dispatch =>
    match s.stream with
    | [] => .ok (s, [])
    | act :: rest => do
      let left ← act.next s
      return ({ act.apply s with stream := left ++ rest }, act.effects)
  | .Deliver delivery => .ok ({ s with strand := s.strand ++ [.Deliver delivery] }, [])
  | .ModeResponse seq success => do
    let (w, _) ← Strand.step D T s.world (.ModeResponse seq success)
    return ({ s with world := w }, [])
  | .EngageResponse seq code => do
    let (w, _) ← Strand.step D T s.world (.EngageResponse seq code)
    let posted := if seq ∈ s.world.engageCalls ∧ code = 1 then [.Engaged seq] else []
    return ({ s with world := w, strand := s.strand ++ posted }, [])
  | .Run e =>
    match s.handler, s.strand with
    | [], job :: rest => do
      let (w, os) ← burst (Strand.machine D T) s.world (job.inputs D e)
      return ({ s with world := w, strand := rest, handler := job.callbacks w os }, [.Ran job os])
    | _, _ => .ok (s, [])
  | .Handler =>
    match s.handler with
    | [] => .ok (s, [])
    | act :: rest => do
      let left ← act.next s
      return ({ act.apply s with handler := left ++ rest }, act.effects)
  | .Switch =>
    match s.switches with
    | [] => .ok (s, [])
    | enabled :: rest => .ok ({ s with switches := rest, streamingEnabled := enabled }, [])
  | .Returns => .ok ({ s with etaAdapter := false }, [])

/-- The application once it is wired. -/
def initialApp (w : World R Int64) : App R where
  world := w
  strand := []
  handler := []
  stream := []
  activeTripId := 0
  currentRequestId := 0
  switches := []
  streamingEnabled := false
  etaAdapter := true

def machine (D : MapData R) (T : TripTimings) : Machine (App R) (Turn R) (Effect R) Fault where
  Start s := ∃ w, (Strand.machine D T).Start w ∧ s = initialApp w
  step := step D T

theorem fresh_wired {D : MapData R} {T : TripTimings} {now : Int} :
    (machine D T).Start (initialApp (initialWorld .fresh now)) := ⟨_, fresh_starts, rfl⟩

/-! ### What a step can do -/

/-- The handlers that ROS and the services post. -/
def Job.fromOutside : Job R → Bool
  | .Engaged _ | .Deliver _ => true
  | _ => false

/-- Neither a command is read nor do a thread or the strand go on. -/
def Turn.Outside (s : App R) : Turn R → Prop
  | .Receive _ => s.stream ≠ []
  | .Dispatch => s.stream = []
  | .Handler => s.handler = []
  | .Run _ => s.handler = [] → s.strand = []
  | .Deliver _ | .ModeResponse _ _ | .EngageResponse _ _ | .Switch | .Returns => True

/-- The kinds of steps: something comes from outside, a command is read, one of
    the two threads does its next act, the strand runs its next handler. -/
inductive Change (D : MapData R) (T : TripTimings) (s : App R) : Turn R → App R → List (Effect R) → Prop
  | outside {i : Turn R} (w : World R Int64) (jobs : List (Job R)) (switches : List Bool) (enabled : Bool)
      (outside : i.Outside s) (leads : Leads (Strand.machine D T) s.world w) (ctrl : w.ctrl = s.world.ctrl)
      (posted : ∀ job ∈ jobs, job.fromOutside = true) (adapter : Bool)
      (kept : (i = .Returns → adapter = false) ∧ (i ≠ .Returns → adapter = s.etaAdapter)) :
      Change D T s i
        { s with
          world := w, strand := s.strand ++ jobs, switches := switches, streamingEnabled := enabled
          etaAdapter := adapter } []
  | receive (command : GatewayCommand R) (free : s.stream = []) :
      Change D T s (.Receive command) { s with stream := dispatch command } []
  | dispatch (act : Act R) (rest : List (Act R)) (next : s.stream = act :: rest) (left : List (Act R))
      (leaves : act.next s = .ok left) :
      Change D T s .Dispatch { act.apply s with stream := left ++ rest } act.effects
  | handle (act : Act R) (rest : List (Act R)) (next : s.handler = act :: rest) (left : List (Act R))
      (leaves : act.next s = .ok left) :
      Change D T s .Handler { act.apply s with handler := left ++ rest } act.effects
  | run (e : Env R) (job : Job R) (rest : List (Job R)) (w : World R Int64) (os : List (Output R Int64))
      (free : s.handler = []) (next : s.strand = job :: rest)
      (ran : burst (Strand.machine D T) s.world (job.inputs D e) = .ok (w, os)) :
      Change D T s (.Run e) { s with world := w, strand := rest, handler := job.callbacks w os } [.Ran job os]

section
variable {D : MapData R} {T : TripTimings} {s s' : App R} {i : Turn R} {effects : List (Effect R)}

/-- Nothing is posted. -/
theorem Change.quiet (w : World R Int64) (switches : List Bool) (enabled : Bool) (other : i ≠ .Returns)
    (outside : i.Outside s) (leads : Leads (Strand.machine D T) s.world w) (ctrl : w.ctrl = s.world.ctrl) :
    Change D T s i { s with world := w, switches := switches, streamingEnabled := enabled } [] := by
  have change := Change.outside w [] switches enabled outside leads ctrl (by simp) s.etaAdapter
    ⟨fun returns => absurd returns other, fun _ => rfl⟩
  rwa [List.append_nil] at change

/-- Nothing happens. -/
theorem Change.none (other : i ≠ .Returns) (outside : i.Outside s) : Change D T s i s [] :=
  .quiet s.world s.switches s.streamingEnabled other outside .refl rfl

theorem step_cases (stepped : step D T s i = .ok (s', effects)) : Change D T s i s' effects := by
  cases i with
  | Receive command =>
    cases stepped
    split
    · rename_i free
      exact .receive command free
    · rename_i busy
      exact .none (by simp) busy
  | Dispatch =>
    simp only [step] at stepped
    split at stepped
    · rename_i done
      cases stepped
      exact .none (by simp) done
    · rename_i act rest next
      obtain ⟨left, leaves, ended⟩ := bind_ok stepped
      cases ended
      exact .dispatch act rest next left leaves
  | Deliver delivery =>
    cases stepped
    exact .outside (i := .Deliver delivery) s.world [.Deliver delivery] s.switches s.streamingEnabled trivial .refl rfl
      (by simp [Job.fromOutside]) s.etaAdapter ⟨by simp, fun _ => rfl⟩
  | ModeResponse seq success =>
    obtain ⟨⟨w, os⟩, answered, rest⟩ := bind_ok stepped
    cases rest
    have ctrl : w.ctrl = s.world.ctrl := by
      rcases modeResponse_cases answered with ⟨_, rfl, _⟩ | ⟨_, _, rfl, _⟩ | ⟨_, _, _, rfl⟩ <;> rfl
    have leads := leads_step (M := Strand.machine D T) (s := s.world) (i := .ModeResponse seq success) answered
    exact .quiet w s.switches s.streamingEnabled (by simp) trivial leads ctrl
  | EngageResponse seq code =>
    obtain ⟨⟨w, os⟩, answered, rest⟩ := bind_ok stepped
    cases rest
    have leads := leads_step (M := Strand.machine D T) (s := s.world) (i := .EngageResponse seq code) answered
    refine .outside (i := .EngageResponse seq code) w _ s.switches s.streamingEnabled trivial leads
      (engageResponse_cases answered).2.1 ?_ s.etaAdapter ⟨by simp, fun _ => rfl⟩
    split <;> simp [Job.fromOutside]
  | Run e =>
    simp only [step] at stepped
    split at stepped
    · rename_i job rest free next
      obtain ⟨⟨w, os⟩, ran, ended⟩ := bind_ok stepped
      cases ended
      exact .run e job rest w os free next ran
    · rename_i none
      cases stepped
      refine .none (by simp) fun free => ?_
      cases waiting : s.strand with
      | nil => rfl
      | cons job rest => exact absurd waiting (none job rest free)
  | Handler =>
    simp only [step] at stepped
    split at stepped
    · rename_i done
      cases stepped
      exact .none (by simp) done
    · rename_i act rest next
      obtain ⟨left, leaves, ended⟩ := bind_ok stepped
      cases ended
      exact .handle act rest next left leaves
  | Switch =>
    simp only [step] at stepped
    split at stepped <;> cases stepped
    · exact .none (by simp) trivial
    · rename_i enabled rest _
      exact .quiet s.world rest enabled (by simp) trivial .refl rfl
  | Returns =>
    cases stepped
    have change := Change.outside (D := D) (T := T) (s := s) (i := .Returns) s.world [] s.switches s.streamingEnabled
      trivial .refl rfl (by simp) false ⟨fun _ => rfl, fun other => absurd rfl other⟩
    rwa [List.append_nil] at change

/-- A step of the application is a sequence of steps of the controller. -/
theorem step_leads (stepped : step D T s i = .ok (s', effects)) : Leads (Strand.machine D T) s.world s'.world := by
  cases step_cases stepped with
  | outside _ _ _ _ _ leads _ _ _ _ => exact leads
  | receive _ _ => exact .refl
  | dispatch act rest _ | handle act rest _ => simpa using .refl
  | run _ _ _ _ _ _ _ ran => exact leads_burst ran

/-- Whatever the application does, the controller is in a state that its own machine reaches. -/
theorem world_reachable {past : History (App R) (Turn R) (Effect R)} {s : App R} (run : Runs (machine D T) past s) :
    Reachable (Strand.machine D T) s.world :=
  run.refines App.world (by rintro _ ⟨w, first, rfl⟩; exact first) fun _ _ _ _ stepped => step_leads stepped

end

end

/-! ### A trip on the street -/

/-- A command is read and dispatched. -/
def commandTurns (command : GatewayCommand ℚ) : List (Turn ℚ) := .Receive command :: List.replicate 5 .Dispatch

/-- Deliveries a second apart, each handled at once. -/
def deliveryTurns (first : Nat) (deliveries : List (Delivery ℚ)) : List (Turn ℚ) :=
  (deliveries.mapIdx fun i delivery => [.Deliver delivery, .Run (streetAt (first + i))]).flatten

/-- The ticks and messages that take one leg of a query to its end. -/
def legTurns (distanceM timeSeconds : ℚ) : List (Delivery ℚ) :=
  [.TickTimer, .TickTimer, .TickTimer, .RouteState .Set, .TickTimer, .Eta distanceM timeSeconds, .TickTimer]

/-- A request for a trip from the first lane to the second. -/
def initOnStreet (requestId : Int64) : GatewayCommand ℚ :=
  .TripInit vin requestId ⟨35 + 688 / 1000, 139 + 69060 / 100000⟩ ⟨35 + 688 / 1000, 139 + 69190 / 100000⟩

/-- The request and its query, up to the tick that ends its first leg. -/
def queryTurns (requestId : Int64) : List (Turn ℚ) :=
  deliveryTurns 0 [.LocState .Initialized] ++ commandTurns (initOnStreet requestId) ++ [.Run (streetAt 1)] ++
    deliveryTurns 2 (legTurns 50 6)

/-- The rest of the query, the move and the drive to the pickup, up to the message of the arrival. -/
def pickupTurns (tripId : Int64) : List (Turn ℚ) :=
  deliveryTurns 9 (legTurns 90 12) ++ List.replicate 3 .Handler ++ [.Run (streetAt 16)] ++
    commandTurns (.TripMove vin tripId) ++ [.Run (streetAt 17)] ++
    deliveryTurns 18 [.TickTimer, .TickTimer, .RouteState .Set, .TickTimer] ++
    [.ModeResponse 0 true, .EngageResponse 0 1, .Run (streetAt 22), .Handler] ++
    deliveryTurns 23 [.RouteState .Arrived]

/-- The arrival at the pickup, the move and the drive to the end of the trip. -/
def dropoffTurns (tripId : Int64) : List (Turn ℚ) :=
  deliveryTurns 24 [.TickTimer] ++ List.replicate 7 .Handler ++
    commandTurns (.TripMove vin tripId) ++ [.Run (streetAt 25)] ++ deliveryTurns 26 [.RouteState .Set, .TickTimer] ++
    [.ModeResponse 1 true, .EngageResponse 1 1, .Run (streetAt 28)] ++ List.replicate 2 .Handler ++
    deliveryTurns 29 [.RouteState .Arrived, .TickTimer] ++ List.replicate 4 .Handler

end AutowareAgent.Gateway
