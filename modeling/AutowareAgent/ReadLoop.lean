import AutowareAgent.Gateway

/-!
The read loop of `VehicleGatewayStreamClient::run_stream`. One chain of tests
picks the number that a command is for, another one picks what is done about it;
they do not list the same commands. What the loop does over any number of
streams depends only on the commands for its own number.
-/
namespace AutowareAgent.ReadLoop
open AutowareAgent.Machines AutowareAgent.Lanes AutowareAgent.Trips AutowareAgent.Gateway

/-! ### Messages -/

structure TripInitRequest (R : Type) where
  vinNumber : String
  requestId : Int64
  startLong : R
  startLat : R
  endLong : R
  endLat : R
  deriving DecidableEq, Repr

structure TripMoveRequest (R : Type) where
  vinNumber : String
  tripId : Int64
  longitude : R
  latitude : R
  deriving DecidableEq, Repr

structure TripParkRequest (R : Type) where
  vinNumber : String
  longitude : R
  latitude : R
  deriving DecidableEq, Repr

structure OrderUpdateLocationRequest where
  vinNumber : String
  deriving DecidableEq, Repr

structure OrderUpdateStatusRequest where
  vinNumber : String
  deriving DecidableEq, Repr

structure TripCancelRequest where
  vinNumber : String
  requestId : Int64
  deriving DecidableEq, Repr

/-- The oneof of a `GatewayCommand`. -/
inductive Command (R : Type)
  | TripInit (request : TripInitRequest R)
  | TripMove (request : TripMoveRequest R)
  | TripPark (request : TripParkRequest R)
  | OrderUpdateLocation (request : OrderUpdateLocationRequest)
  | OrderUpdateStatus (request : OrderUpdateStatusRequest)
  | TripCancel (request : TripCancelRequest)
  | NotSet
  deriving DecidableEq, Repr

/-- Which of the handlers are set. -/
structure StreamCommandHandlers where
  onTripInit : Bool
  onTripMove : Bool
  onOrderUpdateLocation : Bool
  onTripCancel : Bool
  deriving DecidableEq, Repr

/-- What the loop does: a call of `SetActiveTripId`, a write to the current request
    identifier, a call of a handler with its message. -/
inductive Action (R : Type)
  | SetActiveTripId (id : Int64)
  | SetRequestId (id : Int64)
  | OnTripInit (request : TripInitRequest R)
  | OnTripMove (request : TripMoveRequest R)
  | OnOrderUpdateLocation (request : OrderUpdateLocationRequest)
  | OnTripCancel (request : TripCancelRequest)
  deriving DecidableEq, Repr

section
variable {R : Type}

/-! ### The loop -/

/-- `cmd_vin`, the empty string where no test succeeds. -/
def cmdVin : Command R → String
  | .TripInit request => request.vinNumber
  | .TripMove request => request.vinNumber
  | .TripCancel request => request.vinNumber
  | .TripPark request => request.vinNumber
  | .OrderUpdateLocation request => request.vinNumber
  | .OrderUpdateStatus request => request.vinNumber
  | .NotSet => ""

/-- What is done about a command for the own number. -/
def handle (handlers : StreamCommandHandlers) : Command R → List (Action R)
  | .TripInit request =>
    [.SetActiveTripId request.requestId, .SetRequestId request.requestId] ++
      if handlers.onTripInit then [.OnTripInit request] else []
  | .TripMove request =>
    [.SetActiveTripId request.tripId] ++ if handlers.onTripMove then [.OnTripMove request] else []
  | .OrderUpdateLocation request => if handlers.onOrderUpdateLocation then [.OnOrderUpdateLocation request] else []
  | .TripCancel request => if handlers.onTripCancel then [.OnTripCancel request] else []
  | _ => []

/-- One turn of the loop. -/
def readCommand (vin : String) (handlers : StreamCommandHandlers) (cmd : Command R) : List (Action R) :=
  if cmdVin cmd ≠ vin then [] else handle handlers cmd

/-- The loop of one stream, over the commands that `Read` returns until the stream ends. -/
def readLoop (vin : String) (handlers : StreamCommandHandlers) : List (Command R) → List (Action R)
  | [] => []
  | cmd :: rest => readCommand vin handlers cmd ++ readLoop vin handlers rest

/-- `run_with_reconnect`: one stream after the other. -/
def runWithReconnect (vin : String) (handlers : StreamCommandHandlers) : List (List (Command R)) → List (Action R)
  | [] => []
  | stream :: rest => readLoop vin handlers stream ++ runWithReconnect vin handlers rest

/-! ### Commands for others -/

/-- The field `vin_number` of a command, if it has one. -/
def vinField : Command R → Option String
  | .TripInit request => some request.vinNumber
  | .TripMove request => some request.vinNumber
  | .TripPark request => some request.vinNumber
  | .OrderUpdateLocation request => some request.vinNumber
  | .OrderUpdateStatus request => some request.vinNumber
  | .TripCancel request => some request.vinNumber
  | .NotSet => none

/-- A command for the vehicle with the number. -/
def own (vin : String) (cmd : Command R) : Bool := vinField cmd = some vin

/-- The first chain of tests finds the field of the message. -/
theorem cmdVin_eq (cmd : Command R) : cmdVin cmd = (vinField cmd).getD "" := by
  cases cmd <;> rfl

/-- The second one does nothing about a command without content. -/
theorem handle_none {cmd : Command R} (none : vinField cmd = none) (handlers : StreamCommandHandlers) :
    handle handlers cmd = [] := by
  cases cmd with
  | NotSet => rfl
  | _ => cases none

/-- A command that is not for the vehicle has no effect, not even where the
    vehicle's number is empty and one without content passes the first chain. -/
theorem readCommand_other {vin : String} {cmd : Command R} (other : own vin cmd = false)
    (handlers : StreamCommandHandlers) : readCommand vin handlers cmd = [] := by
  unfold readCommand
  by_cases passes : cmdVin cmd = vin
  · rw [if_neg (not_not.mpr passes)]
    cases field : vinField cmd with
    | none => exact handle_none field handlers
    | some number =>
      rw [cmdVin_eq, field, Option.getD_some] at passes
      simp [own, field, passes] at other
  · exact if_pos passes

/-- The loop does what the commands for the vehicle ask for. -/
theorem readLoop_own (vin : String) (handlers : StreamCommandHandlers) (cmds : List (Command R)) :
    readLoop vin handlers cmds = (cmds.filter (own vin)).flatMap (readCommand vin handlers) := by
  induction cmds with
  | nil => rfl
  | cons cmd rest ih =>
    rw [readLoop, ih]
    cases mine : own vin cmd with
    | true => rw [List.filter_cons_of_pos mine, List.flatMap_cons]
    | false => rw [List.filter_cons_of_neg (by simp [mine]), readCommand_other mine, List.nil_append]

/-- How the commands are spread over the streams makes no difference. -/
theorem runWithReconnect_flatten (vin : String) (handlers : StreamCommandHandlers) (streams : List (List (Command R))) :
    runWithReconnect vin handlers streams = readLoop vin handlers streams.flatten := by
  induction streams with
  | nil => rfl
  | cons stream rest ih =>
    rw [runWithReconnect, ih, List.flatten_cons, readLoop_own, readLoop_own, readLoop_own, List.filter_append,
      List.flatMap_append]

/-- Over any streams that bring the same commands for the vehicle the loop does the same. -/
theorem others_unnoticed {vin : String} {streams streams' : List (List (Command R))}
    (same : streams.flatten.filter (own vin) = streams'.flatten.filter (own vin)) (handlers : StreamCommandHandlers) :
    runWithReconnect vin handlers streams = runWithReconnect vin handlers streams' := by
  rw [runWithReconnect_flatten, runWithReconnect_flatten, readLoop_own, readLoop_own, same]

/-- A trip is asked for and cancelled on two streams, another vehicle's trip in between. -/
theorem others_unnoticed_here :
    runWithReconnect vin ⟨true, true, true, true⟩
      [[.TripInit ⟨vin, 5, 139, 35, 139, 35⟩], [.TripCancel ⟨"OTHER", 7⟩, .NotSet, .TripCancel ⟨vin, 5⟩]] =
    runWithReconnect (R := ℚ) vin ⟨true, true, true, true⟩
      [[.TripInit ⟨vin, 5, 139, 35, 139, 35⟩, .TripCancel ⟨vin, 5⟩]] :=
  others_unnoticed (by decide) ⟨true, true, true, true⟩

/-! ### The application -/

/-- A message as the application's model has it, without the fields that nothing reads. -/
def toGateway : Command R → GatewayCommand R
  | .TripInit request => .TripInit request.vinNumber request.requestId ⟨request.startLat, request.startLong⟩
      ⟨request.endLat, request.endLong⟩
  | .TripMove request => .TripMove request.vinNumber request.tripId
  | .TripPark request => .TripPark request.vinNumber
  | .OrderUpdateLocation request => .OrderUpdateLocation request.vinNumber
  | .OrderUpdateStatus request => .OrderUpdateStatus request.vinNumber
  | .TripCancel request => .TripCancel request.vinNumber request.requestId
  | .NotSet => .NotSet

/-- The handlers that the application sets. -/
def appHandlers : StreamCommandHandlers := ⟨true, true, true, true⟩

/-- What the loop's calls do in the application. -/
def acts : Action R → List (Act R)
  | .SetActiveTripId id => [.SetActiveTripId id]
  | .SetRequestId id => [.SetRequestId id]
  | .OnTripInit request => [.Post (.QueryEta request.requestId ⟨request.startLat, request.startLong⟩
      ⟨request.endLat, request.endLong⟩)]
  | .OnTripMove request => [.Post (.HandleMoveCommand request.tripId)]
  | .OnOrderUpdateLocation _ => [.Make (.OrderUpdateLocationAck true), .Post .GetTripStatus]
  | .OnTripCancel _ => [.Post .CancelTrip, .Make (.TripCancelAck true), .Make (.Status "CANCELLED")]

/-- The application dispatches a command as the loop does. -/
theorem dispatch_readCommand (cmd : Command R) :
    dispatch (toGateway cmd) = (readCommand vin appHandlers cmd).flatMap acts := by
  have number : (toGateway cmd).vinNumber = cmdVin cmd := by cases cmd <;> rfl
  unfold dispatch readCommand
  rw [number]
  split
  · rfl
  · cases cmd <;> rfl

end

section
variable {R : Type} [Zero R] [Add R] [Sub R] [Mul R] [Div R] [NatCast R] [LT R] [DecidableLT R] [CMath R]
variable {D : MapData R} {T : TripTimings}

/-- A command that leaves nothing to do leaves the application alone. -/
theorem receive_silent {command : GatewayCommand R} (silent : dispatch command = []) (s : App R) :
    Gateway.step D T s (.Receive command) = .ok (s, []) := by
  simp only [Gateway.step, silent]
  split
  · rename_i free
    cases s
    cases free
    rfl
  · rfl

/-- A command for another vehicle, or without content, is read. -/
def stranger : Turn R → Bool
  | .Receive command => command.vinNumber ≠ vin
  | _ => false

/-- The application goes the same way without the commands for others. -/
theorem burst_strangers (turns : List (Turn R)) (s : App R) :
    burst (Gateway.machine D T) s (turns.filter fun i => !stranger i) = burst (Gateway.machine D T) s turns := by
  induction turns generalizing s with
  | nil => rfl
  | cons i rest ih =>
    cases other : stranger i with
    | false =>
      rw [List.filter_cons_of_pos (by simp [other]), burst, burst]
      split
      · rw [ih]
      · rfl
    | true =>
      cases i with
      | Receive command =>
        have silent : dispatch command = [] := if_pos (of_decide_eq_true other)
        have read : (Gateway.machine D T).step s (.Receive command) = .ok (s, []) :=
          receive_silent (D := D) (T := T) silent s
        rw [List.filter_cons_of_neg (by simp [other]), ih, burst, read]
        simp only [List.nil_append]
        cases burst (Gateway.machine D T) s rest <;> rfl
      | _ => cases other

end

end AutowareAgent.ReadLoop
