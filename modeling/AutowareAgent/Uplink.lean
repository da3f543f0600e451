import AutowareAgent.Couplings
import AutowareAgent.Deliveries
import AutowareAgent.TripEvents

/-!
The agent and its stream to the gateway: the application, whose threads put
events on the queue, and the client, whose threads take them off. Both run in the
pair as they do alone. `Read` belongs to both: the thread that it returns to
dispatches the command before it reads again, and the stream ends under it.
-/
namespace AutowareAgent.Uplink
open AutowareAgent.Machines AutowareAgent.Couplings AutowareAgent.Lanes AutowareAgent.LaneCache AutowareAgent.Trips
open AutowareAgent.Strand AutowareAgent.Gateway AutowareAgent.Reports AutowareAgent.TripEvents
open AutowareAgent.EventStream (StreamClient Attempt)
open AutowareAgent.Deliveries (opens opened lost)

/-- What happens next: the application does something on its own, a thread of the
    client goes on, `Read` returns a command, the stream ends under `Read`. -/
inductive Turn (R : Type)
  | Works (turn : Gateway.Turn R)
  | Streams (turn : EventStream.Turn (VehicleEvent R))
  | Receives (command : GatewayCommand R)
  | Ends
  deriving DecidableEq, Repr

section
variable {R : Type}

/-- The event that an effect puts on the queue. -/
def eventOf : Effect R → Option (VehicleEvent R)
  | .Queued _ event => some event
  | .Ran _ _ => none

/-- A stream is open, and its thread waits in `Read`. -/
def reads (s : App R) (c : StreamClient (VehicleEvent R)) : Bool :=
  s.stream.isEmpty && c.stream.any EventStream.Stream.reading

/-- What a turn is to the application. -/
def appTurn (s : App R) (c : StreamClient (VehicleEvent R)) : Turn R → Option (Gateway.Turn R)
  | .Works (.Receive _) => none
  | .Works turn => some turn
  | .Receives command => if reads s c then some (.Receive command) else none
  | .Streams _ | .Ends => none

/-- What a turn is to the client's own threads. -/
def clientTurn (s : App R) (c : StreamClient (VehicleEvent R)) :
    Turn R → Option (EventStream.Turn (VehicleEvent R))
  | .Streams (.Enqueue _) | .Streams (.ReadReturns _) => none
  | .Streams turn => some turn
  | .Receives _ => if reads s c then some (.ReadReturns true) else none
  | .Ends => if reads s c then some (.ReadReturns false) else none
  | .Works _ => none

/-- The application's events go on the client's queue. -/
def uplink : Coupling (App R) (Gateway.Turn R) (Effect R) (StreamClient (VehicleEvent R))
    (EventStream.Turn (VehicleEvent R)) (Turn R) where
  left := appTurn
  right s c turn effects := (effects.filterMap eventOf).map .Enqueue ++ (clientTurn s c turn).toList

/-- What the agent's runs consist of. -/
abbrev Past (R : Type) :=
  History (App R × StreamClient (VehicleEvent R)) (Turn R) (Effect R ⊕ Attempt (VehicleEvent R))

/-- The events that were put on the queue. -/
def posted (past : Past R) : List (VehicleEvent R) := (lefts (outputs past)).filterMap eventOf

/-- The `Write` calls that have returned. -/
def tried (past : Past R) : List (Attempt (VehicleEvent R)) := rights (outputs past)

/-- The events that the gateway was sent. -/
def sent (past : Past R) : List (VehicleEvent R) := ((tried past).filter Attempt.ok).map Attempt.ev

end

section
variable {R : Type} [Zero R] [Add R] [Sub R] [Mul R] [Div R] [NatCast R] [LT R] [DecidableLT R] [CMath R]
variable {D : MapData R} {T : TripTimings}

/-- The agent's machine. -/
def machine (D : MapData R) (T : TripTimings) :
    Machine (App R × StreamClient (VehicleEvent R)) (Turn R) (Effect R ⊕ Attempt (VehicleEvent R)) (Fault ⊕ Empty) :=
  uplink.machine (Gateway.machine D T) (EventStream.machine (VehicleEvent R))

variable {past : Past R} {s : App R × StreamClient (VehicleEvent R)}

end

section
attribute [local instance] streetMath

/-- A writer takes events off the queue and writes them. -/
def writes (count : Nat) : List (Turn ℚ) :=
  (List.replicate count Deliveries.writeTurns).flatten.map .Streams

end
end AutowareAgent.Uplink
