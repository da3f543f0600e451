import AutowareAgent.Couplings
import AutowareAgent.Positions

/-!
The location bridge beside the application. A tick first asks the controller for
the position and then sends what it knows, and what the application does comes in
between. A status without position shows the origin, which the bridge ignores, so
it goes on sending the position that it knew before the status was replaced.
-/
namespace AutowareAgent.Locations
open AutowareAgent.Machines AutowareAgent.Couplings AutowareAgent.Lanes AutowareAgent.LaneCache AutowareAgent.Trips
open AutowareAgent.Strand AutowareAgent.Gateway AutowareAgent.Reports AutowareAgent.Positions

/-- The message that is published. -/
structure LocationMessage (R : Type) where
  latitude : R
  longitude : R
  tripId : Int64
  deriving DecidableEq, Repr

/-- The bridge: the position that it knows, and whether a tick has asked and not yet sent. -/
structure LocationBridge (R : Type) where
  currentLat : R
  currentLon : R
  ticking : Bool
  deriving DecidableEq, Repr

/-- The two halves of `onTick`, with what the application answers there. -/
inductive Half (R : Type)
  | Asks (currentGps : GPSCoordinate R)
  | Sends (streamingEnabled : Bool) (activeTripId : Int64)
  deriving DecidableEq, Repr

/-- What happens next: the application goes on, or the bridge's tick. -/
inductive Turn (R : Type)
  | Works (turn : Gateway.Turn R)
  | Asks
  | Sends
  deriving DecidableEq, Repr

section
variable {R : Type} [Zero R] [DecidableEq R]

/-! ### The bridge -/

/-- The provider that the application gives the bridge. -/
def gpsProvider (currentGps : GPSCoordinate R) : Option (R × R) :=
  if currentGps.latitude = 0 ∧ currentGps.longitude = 0 then none
  else some (currentGps.latitude, currentGps.longitude)

/-- `onTick`, in two halves. -/
def LocationBridge.onTick (b : LocationBridge R) : Half R → Except Empty (LocationBridge R × List (LocationMessage R))
  | .Asks currentGps =>
    if b.ticking then .ok (b, [])
    else
      match gpsProvider currentGps with
      | some (lat, lon) => .ok (⟨lat, lon, true⟩, [])
      | none => .ok ({ b with ticking := true }, [])
  | .Sends streamingEnabled activeTripId =>
    if b.ticking then
      .ok ({ b with ticking := false }, if streamingEnabled then [⟨b.currentLat, b.currentLon, activeTripId⟩] else [])
    else .ok (b, [])

def bridge (R : Type) [Zero R] [DecidableEq R] : Machine (LocationBridge R) (Half R) (LocationMessage R) Empty where
  Start b := b = ⟨0, 0, false⟩
  step := LocationBridge.onTick

/-- The application's turn; its switches are processed on the bridge's strand, between two ticks. -/
def appTurn (b : LocationBridge R) : Turn R → Option (Gateway.Turn R)
  | .Works .Switch => if b.ticking then none else some .Switch
  | .Works turn => some turn
  | .Asks | .Sends => none

/-- The tick reads the application's status, switch and trip. -/
def locating : Coupling (App R) (Gateway.Turn R) (Effect R) (LocationBridge R) (Half R) (Turn R) where
  left _ b turn := appTurn b turn
  right s _ turn _ :=
    match turn with
    | .Works _ => []
    | .Asks => [.Asks s.world.ctrl.status.currentGps]
    | .Sends => [.Sends s.streamingEnabled s.activeTripId]

/-! ### What a tick does -/

/-- The bridge's step within one of the pair. -/
inductive Ticked (s : App R) (b : LocationBridge R) : Turn R → LocationBridge R → List (LocationMessage R) → Prop
  | idle {turn : Turn R} (asks : turn = .Asks → b.ticking = true) (sends : turn = .Sends → b.ticking = false) :
      Ticked s b turn b []
  | lost (free : b.ticking = false) (lost : s.world.ctrl.status.currentGps = ⟨0, 0⟩) :
      Ticked s b .Asks { b with ticking := true } []
  | found (free : b.ticking = false) (found : s.world.ctrl.status.currentGps ≠ ⟨0, 0⟩) :
      Ticked s b .Asks
        ⟨s.world.ctrl.status.currentGps.latitude, s.world.ctrl.status.currentGps.longitude, true⟩ []
  | sends (busy : b.ticking = true) :
      Ticked s b .Sends { b with ticking := false }
        (if s.streamingEnabled then [⟨b.currentLat, b.currentLon, s.activeTripId⟩] else [])

theorem gpsProvider_eq (gps : GPSCoordinate R) :
    gpsProvider gps = if gps = ⟨0, 0⟩ then none else some (gps.latitude, gps.longitude) := by
  obtain ⟨lat, lon⟩ := gps
  simp only [gpsProvider, GPSCoordinate.mk.injEq]

theorem ticked {s : App R} {b b' : LocationBridge R} {turn : Turn R} {effects : List (Effect R)}
    {msgs : List (LocationMessage R)}
    (ran : burst (bridge R) b (locating.right s b turn effects) = .ok (b', msgs)) : Ticked s b turn b' msgs := by
  cases turn with
  | Works turn =>
    cases ran
    exact .idle nofun nofun
  | Asks =>
    obtain ⟨u, first, later, stepped, rest, rfl⟩ := burst_cons ran
    cases rest
    rw [List.append_nil]
    change (bridge R).step b (.Asks _) = _ at stepped
    simp only [bridge, LocationBridge.onTick, gpsProvider_eq] at stepped
    by_cases busy : b.ticking = true
    · rw [if_pos busy] at stepped
      cases stepped
      exact .idle (fun _ => busy) nofun
    · rw [if_neg busy] at stepped
      by_cases origin : s.world.ctrl.status.currentGps = ⟨0, 0⟩
      · rw [if_pos origin] at stepped
        cases stepped
        exact .lost (by simpa using busy) origin
      · rw [if_neg origin] at stepped
        cases stepped
        exact .found (by simpa using busy) origin
  | Sends =>
    obtain ⟨u, first, later, stepped, rest, rfl⟩ := burst_cons ran
    cases rest
    rw [List.append_nil]
    change (bridge R).step b (.Sends _ _) = _ at stepped
    simp only [bridge, LocationBridge.onTick] at stepped
    by_cases busy : b.ticking = true
    · rw [if_pos busy] at stepped
      cases stepped
      exact .sends busy
    · rw [if_neg busy] at stepped
      cases stepped
      exact .idle nofun fun _ => by simpa using busy

/-! ### The messages of a run -/

abbrev Past (R : Type) := History (App R × LocationBridge R) (Turn R) (Effect R ⊕ LocationMessage R)

/-- A tick asks for the position. -/
def asks (m : Moment (App R × LocationBridge R) (Turn R) (Effect R ⊕ LocationMessage R)) : Bool :=
  match m.input with
  | .Asks => !m.pre.2.ticking
  | _ => false

/-- A tick asks for the position, and there is one. -/
def finds (m : Moment (App R × LocationBridge R) (Turn R) (Effect R ⊕ LocationMessage R)) : Bool :=
  asks m && decide (m.pre.1.world.ctrl.status.currentGps ≠ ⟨0, 0⟩)

def LocationMessage.position (msg : LocationMessage R) : GPSCoordinate R := ⟨msg.latitude, msg.longitude⟩

variable [Add R] [Sub R] [Mul R] [Div R] [NatCast R] [LT R] [DecidableLT R] [CMath R]

/-- A message carries the position that the status showed when a tick last found
    one, which is the latest that had been set by then. -/
def ShowsFound (D : MapData R) (past : Past R) (position : GPSCoordinate R) : Prop :=
  (position = ⟨0, 0⟩ ∧ ∀ r ∈ past, finds r = false) ∨
  ∃ newer r older, past = newer ++ r :: older ∧ finds r = true ∧ (∀ n ∈ newer, finds n = false) ∧
    latest D (locating.leftPast older) = some position

/-- One message at most is sent, for the trip that is active, only while streaming
    is enabled and only after a tick that has asked and has not sent one yet. -/
def Streams (D : MapData R) (past : Past R)
    (m : Moment (App R × LocationBridge R) (Turn R) (Effect R ⊕ LocationMessage R)) : Prop :=
  (rights m.outputs).length ≤ 1 ∧ ∀ msg, .inr msg ∈ m.outputs →
    m.pre.1.streamingEnabled = true ∧ msg.tripId = m.pre.1.activeTripId ∧ ShowsFound D past msg.position ∧
      (∃ r ∈ past, asks r = true) ∧ ∀ n ∈ since asks past, rights n.outputs = []

/-! ### The position of the status -/

section
variable {D : MapData R} {T : TripTimings}

omit [DecidableEq R] in
/-- A handler of one step leaves the position, or none. -/
theorem single_leaves {w w' : World R Int64} {i : Input R Int64} {os : List (Output R Int64)}
    (ran : burst (Strand.machine D T) w [i] = .ok (w', os)) (other : ∀ e gps, i ≠ .Handle e (.SetCurrentGps gps)) :
    w'.ctrl.status.currentGps = ⟨0, 0⟩ ∨ w'.ctrl.status.currentGps = w.ctrl.status.currentGps := by
  obtain ⟨u, first, later, stepped, rest, rfl⟩ := burst_cons ran
  cases rest
  by_cases resets : Resets D T w.ctrl i
  · exact .inl ((step_position stepped other).1 resets)
  · exact .inr ((step_position stepped other).2 resets)

omit [DecidableEq R] in
/-- A handler leaves the position that it sets, the one before, or none. -/
theorem ran_leaves {e : Env R} {job : Job R} {w w' : World R Int64} {os : List (Output R Int64)}
    (reach : Reachable (Strand.machine D T) w)
    (ran : burst (Strand.machine D T) w (job.inputs D e) = .ok (w', os)) :
    w'.ctrl.status.currentGps = ⟨0, 0⟩ ∨
      w'.ctrl.status.currentGps = (setBy D e job).getD w.ctrl.status.currentGps := by
  cases job with
  | GetTripStatus =>
    cases ran
    exact .inr rfl
  | Deliver delivery =>
    cases delivery with
    | TickTimer =>
      obtain ⟨past, run⟩ := reach
      obtain ⟨past', u, _, ticked, ⟨pose, rfl⟩ | ⟨gps, pose, set⟩⟩ := tickTimer_cases run ran
      · rw [setBy, pose]
        exact single_leaves ticked (by simp)
      · rw [setBy, pose]
        have left := single_leaves ticked (by simp)
        rw [set] at left
        exact left
    | _ => exact single_leaves ran (by simp)
  | _ => exact single_leaves ran (by simp)

omit [DecidableEq R] in
/-- In every reachable state the status has no position, or the latest one set. -/
theorem lost_or_latest {past : History (App R) (Gateway.Turn R) (Effect R)} {s : App R}
    (run : Runs (Gateway.machine D T) past s) :
    s.world.ctrl.status.currentGps = ⟨0, 0⟩ ∨ latest D past = some s.world.ctrl.status.currentGps := by
  refine run.invariant (I := fun past s => s.world.ctrl.status.currentGps = ⟨0, 0⟩ ∨
    latest D past = some s.world.ctrl.status.currentGps) ?_ ?_
  · rintro _ ⟨w, ⟨m, now, _, rfl⟩, rfl⟩
    exact .inl (initial_position _ _)
  · intro past s i effects s' earlier shown stepped
    cases step_cases stepped with
    | outside w jobs switches enabled outside _ ctrl _ =>
      rw [latest_cons, setAt_outside outside, ctrl]
      exact shown
    | receive command _ => exact shown
    | dispatch act rest _ =>
      rw [latest_cons]
      simpa [setAt] using shown
    | handle act rest _ =>
      rw [latest_cons]
      simpa [setAt] using shown
    | run e job rest w os free next ran =>
      have began : started ⟨s, .Run e, [.Ran job os],
          { s with world := w, strand := rest, handler := job.callbacks w os }⟩ = some job := by
        simp [started, free, next]
      rcases ran_leaves (world_reachable earlier) ran with none | left
      · exact .inl none
      · rw [latest_cons]
        simp only [setAt, began, Option.bind_some]
        cases set : setBy D e job with
        | some gps =>
          rw [set] at left
          exact .inr (congrArg some left.symm)
        | none =>
          rw [set] at left
          rw [Option.none_or, left]
          exact shown

end

/-! ### What the bridge sends -/

section
variable {D : MapData R} {T : TripTimings}

/-- The application with its location bridge. -/
def machine (D : MapData R) (T : TripTimings) :
    Machine (App R × LocationBridge R) (Turn R) (Effect R ⊕ LocationMessage R) (Fault ⊕ Empty) :=
  locating.machine (Gateway.machine D T) (bridge R)

/-- The bridge knows what was found last, and a tick that has asked has sent nothing yet. -/
structure Knows (D : MapData R) (past : Past R) (b : LocationBridge R) : Prop where
  shows : ShowsFound D past ⟨b.currentLat, b.currentLon⟩
  asked : b.ticking = true → ∃ r ∈ past, asks r = true
  waits : b.ticking = true → ∀ n ∈ since asks past, rights n.outputs = []

omit [Add R] [Sub R] [Mul R] [Div R] [CMath R] in
theorem ShowsFound.later {past : Past R} {position : GPSCoordinate R} (shows : ShowsFound D past position)
    {m : Moment (App R × LocationBridge R) (Turn R) (Effect R ⊕ LocationMessage R)} (nothing : finds m = false) :
    ShowsFound D (m :: past) position := by
  rcases shows with ⟨origin, none⟩ | ⟨newer, r, older, rfl, found, since, set⟩
  · refine .inl ⟨origin, fun r member => ?_⟩
    rcases List.mem_cons.mp member with rfl | before
    · exact nothing
    · exact none r before
  · refine .inr ⟨m :: newer, r, older, rfl, found, fun n member => ?_, set⟩
    rcases List.mem_cons.mp member with rfl | before
    · exact nothing
    · exact since n before

variable {past : Past R} {s : App R × LocationBridge R}

theorem knows_run (run : Runs (machine D T) past s) : Knows D past s.2 := by
  refine run.invariant (I := fun past s => Knows D past s.2) ?_ ?_
  · rintro ⟨s, _⟩ ⟨_, rfl⟩
    exact ⟨.inl ⟨rfl, fun r member => absurd member List.not_mem_nil⟩, nofun, nofun⟩
  · rintro past ⟨s, b⟩ turn outs ⟨s', b'⟩ earlier knows stepped
    obtain ⟨_, ran⟩ := coupled_cases stepped
    have tick : Ticked s b turn b' (rights outs) := ticked ran
    generalize sent : rights outs = msgs at tick
    cases tick with
    | idle asked sends =>
      have quiet : asks ⟨(s, b), turn, outs, (s', b)⟩ = false := by
        cases turn with
        | Asks => simp [asks, asked rfl]
        | _ => rfl
      refine ⟨knows.shows.later (by simp [finds, quiet]), fun busy => ?_, fun busy n member => ?_⟩
      · obtain ⟨r, member, asked⟩ := knows.asked busy
        exact ⟨r, List.mem_cons_of_mem _ member, asked⟩
      · rw [since_cons_other quiet] at member
        rcases List.mem_cons.mp member with rfl | before
        · exact sent
        · exact knows.waits busy n before
    | lost free lost =>
      have asked : asks ⟨(s, b), .Asks, outs, (s', { b with ticking := true })⟩ = true := by simp [asks, free]
      refine ⟨knows.shows.later (by simp [finds, lost]), fun _ => ⟨_, List.mem_cons_self, asked⟩, fun _ n member => ?_⟩
      rw [since_cons_kind asked] at member
      cases member
    | found free known =>
      have asked : asks ⟨(s, b), .Asks, outs, (s', ⟨s.world.ctrl.status.currentGps.latitude,
        s.world.ctrl.status.currentGps.longitude, true⟩)⟩ = true := by simp [asks, free]
      have latest : latest D (locating.leftPast past) = some s.world.ctrl.status.currentGps :=
        (lost_or_latest (left_runs earlier)).resolve_left known
      refine ⟨.inr ⟨[], _, past, rfl, by simp [finds, asked, known], by simp, latest⟩,
        fun _ => ⟨_, List.mem_cons_self, asked⟩, fun _ n member => ?_⟩
      rw [since_cons_kind asked] at member
      cases member
    | sends busy => exact ⟨knows.shows.later rfl, nofun, nofun⟩

/-- In every run the location bridge sends one message at most for each tick, only
    while streaming is enabled, for the trip that is active then, and it carries
    the position that the controller's status showed when a tick last found one:
    the latest that the timer had set by then, or the origin where none was found. -/
theorem streams_found (run : Runs (machine D T) past s) : Along (Streams D) past := by
  refine run.along ?_
  rintro past ⟨s, b⟩ turn outs ⟨s', b'⟩ earlier stepped
  have knows := knows_run earlier
  obtain ⟨_, ran⟩ := coupled_cases stepped
  have tick : Ticked s b turn b' (rights outs) := ticked ran
  have sent : ∀ msg, .inr msg ∈ outs → msg ∈ rights outs :=
    fun msg member => List.mem_filterMap.mpr ⟨_, member, rfl⟩
  unfold Streams
  generalize rights outs = msgs at tick sent
  cases tick with
  | idle _ _ | lost _ _ | found _ _ =>
    exact ⟨Nat.zero_le 1, fun msg member => absurd (sent msg member) List.not_mem_nil⟩
  | sends busy =>
    by_cases enabled : s.streamingEnabled = true
    · rw [if_pos enabled] at sent ⊢
      refine ⟨Nat.le_refl 1, fun msg member => ?_⟩
      cases List.mem_singleton.mp (sent msg member)
      exact ⟨enabled, rfl, knows.shows, knows.asked busy, knows.waits busy⟩
    · rw [if_neg enabled] at sent ⊢
      exact ⟨Nat.zero_le 1, fun msg member => absurd (sent msg member) List.not_mem_nil⟩

end
end

section
attribute [local instance] streetMath

/-- A tick of the bridge. -/
def tickTurns : List (Turn ℚ) := [.Asks, .Sends]

/-- On the way to the pickup the bridge sends the vehicle's position, and the same
    one after a cancel that has replaced the status. -/
theorem streams_found_on_street : ∃ past s, Runs (machine street {}) past s ∧
    rights (outputs past) = [⟨onStreet.latitude, onStreet.longitude, 7⟩, ⟨onStreet.latitude, onStreet.longitude, 7⟩] ∧
    s.1.world.ctrl.status.currentGps = ⟨0, 0⟩ ∧ Along (Streams street) past := by
  obtain ⟨past, s, run, sent⟩ := exists_run (M := machine street {})
    (s := (initialApp (initialWorld .fresh 0), ⟨0, 0, false⟩))
    (tickTurns ++ (queryTurns 5 ++ pickupTurns 7 ++ [Gateway.Turn.Switch]).map .Works ++ tickTurns ++
      (commandTurns (.TripCancel vin 5) ++ [Gateway.Turn.Run (streetAt 24)]).map .Works ++ tickTurns)
    ⟨fresh_wired, rfl⟩
    (fun past s => decide (rights (outputs past) = [⟨onStreet.latitude, onStreet.longitude, 7⟩,
      ⟨onStreet.latitude, onStreet.longitude, 7⟩] ∧ s.1.world.ctrl.status.currentGps = ⟨0, 0⟩)) (by decide +kernel)
  obtain ⟨twice, none⟩ := of_decide_eq_true sent
  exact ⟨past, s, run, twice, none, streams_found run⟩

end
end AutowareAgent.Locations
