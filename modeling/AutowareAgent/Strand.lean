import AutowareAgent.LaneCache
import AutowareAgent.Machines
import AutowareAgent.Trips

/-!
The trip controller among its callers. The operations that run on the strand
come in any order; between them the responses to its service requests arrive, in
any order and with any delay. A mode-change response is handled where it
arrives, off the strand, and sends the engage request at once; an engage
response only posts its handler.
-/
namespace AutowareAgent.Strand
open AutowareAgent.Lanes AutowareAgent.LaneCache AutowareAgent.Trips AutowareAgent.Machines

/-- What runs on the strand: the public operations and the delivered messages. -/
inductive Operation (R κ : Type)
  | QueryEta (startGps goalGps : GPSCoordinate R) (cb : Option κ)
  | StartTrip
  | GoToPickup
  | Move
  | HandleMoveCommand
  | Cancel
  | Tick
  | SetCurrentGps (gps : GPSCoordinate R)
  | LocState (state : LocState)
  | RouteState (state : RouteState)
  | ModeState (autonomousAvailable : Bool)
  | Route (route : LaneletRoute)
  | Eta (distanceM timeSeconds : R)
  deriving DecidableEq, Repr

/-- The controller and the requests that it waits for. A mode-change request has
    the sequence number that its client gives it; the engage request that
    continues it, and the handler that its response posts, keep the number. -/
structure World (R κ : Type) where
  ctrl : TripController R κ
  nextSeq : Nat
  modeCalls : List Nat
  engageCalls : List Nat
  acks : List Nat
  deriving DecidableEq, Repr

/-- What happens next. -/
inductive Input (R κ : Type)
  | Handle (e : Env R) (op : Operation R κ)
  | ModeResponse (seq : Nat) (success : Bool)
  | EngageResponse (seq : Nat) (code : Nat)
  | Acknowledge (e : Env R) (seq : Nat)
  deriving DecidableEq, Repr

section
variable {R κ : Type} [Zero R] [Add R] [Sub R] [Mul R] [Div R] [NatCast R] [LT R] [DecidableLT R] [CMath R]

/-- An operation that returns a truth value, with the value among its outputs. -/
def returning (r : TripController R κ × Bool) : TripController R κ := r.1.emit (.Returned r.2)

/-- The operation on the controller. -/
def Operation.apply (D : MapData R) (T : TripTimings) (e : Env R) (c : TripController R κ) :
    Operation R κ → Except Fault (TripController R κ)
  | .QueryEta start goal cb => (c.queryEta D e start goal cb).map returning
  | .StartTrip => (c.startTrip D e.now).map returning
  | .GoToPickup => .ok (returning (c.goToPickup e.now))
  | .Move => (c.move D e.now).map returning
  | .HandleMoveCommand => (c.handleMoveCommand D e.now).map returning
  | .Cancel => .ok (c.cancel e.now)
  | .Tick => c.tick D T e
  | .SetCurrentGps gps => .ok (c.setCurrentGps gps)
  | .LocState state => .ok { c with currentLocState := some state }
  | .RouteState state => .ok { c with currentRouteState := some state }
  | .ModeState autonomousAvailable => .ok { c with currentModeState := some autonomousAvailable }
  | .Route route => .ok (c.onRouteReceived route)
  | .Eta distanceM timeSeconds => .ok (c.injectEta distanceM timeSeconds)

/-- Whether a mode-change request is among the outputs. -/
def requestsMode (os : List (Output R κ)) : Bool :=
  os.any fun o => match o with
    | .ModeRequest => true
    | _ => false

/-- One step. A response to no outstanding request changes nothing. -/
def step (D : MapData R) (T : TripTimings) (w : World R κ) :
    Input R κ → Except Fault (World R κ × List (Output R κ))
  | .Handle e op => do
    let c ← op.apply D T e w.ctrl
    let w := { w with ctrl := c.settled }
    if requestsMode c.out then
      return ({ w with modeCalls := w.modeCalls ++ [w.nextSeq], nextSeq := w.nextSeq + 1 }, c.out)
    else return (w, c.out)
  | .ModeResponse seq success =>
    if seq ∈ w.modeCalls then
      let w := { w with modeCalls := w.modeCalls.erase seq }
      if success then .ok ({ w with engageCalls := w.engageCalls ++ [seq] }, [.EngageRequest true])
      else .ok (w, [])
    else .ok (w, [])
  | .EngageResponse seq code =>
    if seq ∈ w.engageCalls then
      let w := { w with engageCalls := w.engageCalls.erase seq }
      if code = 1 then .ok ({ w with acks := w.acks ++ [seq] }, []) else .ok (w, [])
    else .ok (w, [])
  | .Acknowledge e seq =>
    if seq ∈ w.acks then
      let c := w.ctrl.onEngaged e.now
      .ok ({ w with ctrl := c.settled, acks := w.acks.erase seq }, c.out)
    else .ok (w, [])

/-- The controller as `AutowareController::initialize` leaves it, over a map that
    served any calls before. -/
def initialWorld (m : LaneletMap R) (now : Int) : World R κ where
  ctrl := ((TripController.constructed m).initializeInMap now).settled
  nextSeq := 0
  modeCalls := []
  engageCalls := []
  acks := []

/-- The controller's machine. -/
def machine (D : MapData R) (T : TripTimings) : Machine (World R κ) (Input R κ) (Output R κ) Fault where
  Start w := ∃ (m : LaneletMap R) (now : Int), Reachable (server D) m ∧ w = initialWorld m now
  step := step D T

/-- A controller starts over a map that has served no calls. -/
theorem fresh_starts {D : MapData R} {T : TripTimings} {now : Int} :
    (machine D T).Start (initialWorld .fresh now : World R κ) := ⟨_, now, fresh_served D, rfl⟩

/-! ### What a step can do -/

section
variable {D : MapData R} {T : TripTimings} {w w' : World R κ} {e : Env R} {os : List (Output R κ)}

theorem handle_cases {op : Operation R κ} (stepped : step D T w (.Handle e op) = .ok (w', os)) :
    ∃ c, op.apply D T e w.ctrl = .ok c ∧ os = c.out ∧ w' =
      if requestsMode c.out then
        { w with ctrl := c.settled, modeCalls := w.modeCalls ++ [w.nextSeq], nextSeq := w.nextSeq + 1 }
      else { w with ctrl := c.settled } := by
  obtain ⟨c, applied, rest⟩ := bind_ok stepped
  refine ⟨c, applied, ?_⟩
  dsimp only at rest
  split at rest <;> rename_i asked <;> cases rest <;> simp [asked]

theorem modeResponse_cases {seq : Nat} {success : Bool}
    (stepped : step D T w (.ModeResponse seq success) = .ok (w', os)) :
    (seq ∉ w.modeCalls ∧ w' = w ∧ os = []) ∨
    (seq ∈ w.modeCalls ∧ success = false ∧ w' = { w with modeCalls := w.modeCalls.erase seq } ∧ os = []) ∨
    (seq ∈ w.modeCalls ∧ success = true ∧ os = [.EngageRequest true] ∧
      w' = { w with modeCalls := w.modeCalls.erase seq, engageCalls := w.engageCalls ++ [seq] }) := by
  unfold step at stepped
  dsimp only at stepped
  split at stepped
  · rename_i waiting
    cases success <;> cases stepped
    · exact .inr (.inl ⟨waiting, rfl, rfl, rfl⟩)
    · exact .inr (.inr ⟨waiting, rfl, rfl, rfl⟩)
  · rename_i unknown
    cases stepped
    exact .inl ⟨unknown, rfl, rfl⟩

theorem engageResponse_cases {seq code : Nat} (stepped : step D T w (.EngageResponse seq code) = .ok (w', os)) :
    os = [] ∧ w'.ctrl = w.ctrl ∧ w'.modeCalls = w.modeCalls ∧ w'.nextSeq = w.nextSeq ∧
      ∀ s, s ∈ w'.engageCalls ∨ s ∈ w'.acks → s ∈ w.engageCalls ∨ s ∈ w.acks := by
  unfold step at stepped
  dsimp only at stepped
  split at stepped
  · rename_i waiting
    split at stepped <;> cases stepped <;> refine ⟨rfl, rfl, rfl, rfl, fun s member => ?_⟩
    · rcases member with member | member
      · exact .inl (List.mem_of_mem_erase member)
      · rcases List.mem_append.mp member with member | same
        · exact .inr member
        · exact .inl (List.mem_singleton.mp same ▸ waiting)
    · exact member.imp_left List.mem_of_mem_erase
  · cases stepped
    exact ⟨rfl, rfl, rfl, rfl, fun _ => id⟩

theorem acknowledge_cases {seq : Nat} (stepped : step D T w (.Acknowledge e seq) = .ok (w', os)) :
    (seq ∉ w.acks ∧ w' = w ∧ os = []) ∨
    (seq ∈ w.acks ∧ os = (w.ctrl.onEngaged e.now).out ∧
      w' = { w with ctrl := (w.ctrl.onEngaged e.now).settled, acks := w.acks.erase seq }) := by
  unfold step at stepped
  dsimp only at stepped
  split at stepped
  · rename_i posted
    cases stepped
    exact .inr ⟨posted, rfl, rfl⟩
  · rename_i unknown
    cases stepped
    exact .inl ⟨unknown, rfl, rfl⟩

/-- A step leaves the controller settled, or as it was. -/
theorem step_ctrl {i : Input R κ} (stepped : step D T w i = .ok (w', os)) :
    (∃ c : TripController R κ, w'.ctrl = c.settled) ∨ w'.ctrl = w.ctrl := by
  cases i with
  | Handle e op =>
    obtain ⟨c, _, _, rfl⟩ := handle_cases stepped
    exact .inl ⟨c, by split <;> rfl⟩
  | ModeResponse seq success =>
    rcases modeResponse_cases stepped with ⟨_, rfl, _⟩ | ⟨_, _, rfl, _⟩ | ⟨_, _, _, rfl⟩ <;> exact .inr rfl
  | EngageResponse seq code => exact .inr (engageResponse_cases stepped).2.1
  | Acknowledge e seq =>
    rcases acknowledge_cases stepped with ⟨_, rfl, _⟩ | ⟨_, _, rfl⟩
    · exact .inr rfl
    · exact .inl ⟨_, rfl⟩

end

end

/-! ### A trip on the street -/

section
variable {κ : Type}

/-- The surroundings on the street, the clock in seconds. -/
def streetAt (seconds : Nat) : Env ℚ := ⟨seconds * 1000000000, some ⟨69010, 68800, 40⟩, true, true⟩

/-- Operations that are handled a second apart. -/
def eachSecond (first : Nat) (ops : List (Operation ℚ κ)) : List (Input ℚ κ) :=
  ops.mapIdx fun i op => .Handle (streetAt (first + i)) op

/-- The ticks and messages that take one leg of a query to its end. -/
def legOnStreet (distanceM timeSeconds : ℚ) : List (Operation ℚ κ) :=
  [.Tick, .Tick, .Tick, .RouteState .Set, .Tick, .Eta distanceM timeSeconds, .Tick]

/-- A query from the first lane to the second. -/
def quoteOnStreet (cb : Option κ) : List (Input ℚ κ) :=
  eachSecond 0 ([.LocState .Initialized,
      .QueryEta ⟨35 + 688 / 1000, 139 + 69060 / 100000⟩ ⟨35 + 688 / 1000, 139 + 69190 / 100000⟩ cb] ++
    legOnStreet 50 6 ++ legOnStreet 90 12)

/-- The query, and the drive up to the first mode-change request of the pickup leg. -/
def tripOnStreet (cb : Option κ) : List (Input ℚ κ) :=
  quoteOnStreet cb ++ eachSecond 16 [.StartTrip, .GoToPickup, .Tick, .Tick, .RouteState .Set, .Tick]

/-- The answers to the mode-change request and to the engage request after it. -/
def engagedOnStreet (seconds seq : Nat) : List (Input ℚ κ) :=
  [.ModeResponse seq true, .EngageResponse seq 1, .Acknowledge (streetAt seconds) seq]

/-- The pickup leg and the drive up to the first mode-change request of the trip leg. -/
def pickupOnStreet : List (Input ℚ κ) :=
  engagedOnStreet 21 0 ++ eachSecond 22 [.RouteState .Arrived, .Tick, .Move, .RouteState .Set, .Tick]

end

section
attribute [local instance] streetMath

/-- The whole trip, from the first lane to the second. -/
theorem completed_on_street : ∃ past w, Runs (machine street {} : Machine (World ℚ Unit) _ _ _) past w ∧
    w.ctrl.status.state = .Completed := by
  obtain ⟨past, w, run, done⟩ := exists_run (M := machine street {}) (s := initialWorld .fresh 0)
    (tripOnStreet (some ()) ++ pickupOnStreet ++ engagedOnStreet 27 1 ++
      eachSecond 28 [.RouteState .Arrived, .Tick]) fresh_starts
    (fun _ w => decide (w.ctrl.status.state = .Completed)) (by decide +kernel)
  exact ⟨past, w, run, by simpa using done⟩

end
end AutowareAgent.Strand
