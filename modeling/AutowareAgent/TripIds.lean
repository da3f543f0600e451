import AutowareAgent.Reports

/-!
Which trip an event names. The active trip identifier is stored by the stream's
thread when a command comes, before the controller has accepted or rejected it,
and is read by the strand when it reports. The events name a trip that the
controller has accepted in the runs in which no command brings an unknown
identifier while a trip is under way, or before an earlier move is handled.
-/
namespace AutowareAgent.TripIds
open AutowareAgent.Machines AutowareAgent.Lanes AutowareAgent.LaneCache AutowareAgent.Trips AutowareAgent.Strand
open AutowareAgent.Automaton AutowareAgent.Gateway AutowareAgent.Reports

/-- The states in which the vehicle serves a command that the controller has accepted. -/
def underWay : TripState → Bool
  | .PublishingInitialPose | .WaitingLocalisation | .Engaging | .DrivingToPickup | .Running => true
  | _ => false

section
variable {R : Type}

/-- The command that a handler passed on was accepted. -/
def accepted (os : List (Output R Int64)) : Bool :=
  os.any fun o => match o with
    | .Returned ok => ok
    | _ => false

/-- The identifiers of the commands that the controller has accepted for its
    present trip: that of the `TripInit` whose query it accepted last, and those
    of the moves that it accepted since. -/
def acceptedIds : History (App R) (Turn R) (Effect R) → List Int64
  | [] => []
  | m :: older =>
    match m.outputs with
    | [.Ran (.QueryEta id _ _) os] => if accepted os then [id] else acceptedIds older
    | [.Ran (.HandleMoveCommand id) os] => if accepted os then id :: acceptedIds older else acceptedIds older
    | _ => acceptedIds older

def tripIdOf : VehicleEvent R → Option Int64
  | .Status _ tripId _ | .Arrive _ tripId _ => some tripId
  | _ => none

/-- The trip that a report of a state change names is the one that the controller has accepted. -/
def OwnTrip (past : History (App R) (Turn R) (Effect R)) (m : Moment (App R) (Turn R) (Effect R)) : Prop :=
  ∀ report event, .Queued report event ∈ m.outputs → namesTrip report = true → cancels report = false →
    ∃ id ∈ acceptedIds past, tripIdOf event = some id

/-- An act that will read the shared identifier. -/
def readsId : Act R → Bool
  | .Make report => namesTrip report
  | _ => false

/-- A trip is under way, or something about it is still to be reported. -/
def Reported (s : App R) : Prop :=
  underWay s.world.ctrl.status.state = true ∨ ∃ act ∈ s.handler, readsId act = true

/-- The trip identifier that a command stores. -/
def storedId (m : Moment (App R) (Turn R) (Effect R)) : Option Int64 :=
  match dispatched m with
  | some (.SetActiveTripId id) => some id
  | _ => none

/-- The identifier of the move that is handled next. -/
def startedMove (m : Moment (App R) (Turn R) (Effect R)) : Option Int64 :=
  match started m with
  | some (.HandleMoveCommand id) => some id
  | _ => none

/-- The identifiers that come are known: a command that comes then brings one that
    was accepted for the trip, and a move that the controller waits for finds its
    own, or such a one. -/
def KnownId (past : History (App R) (Turn R) (Effect R)) (m : Moment (App R) (Turn R) (Effect R)) : Prop :=
  (∀ id ∈ storedId m, Reported m.pre → id ∈ acceptedIds past) ∧
  ∀ id ∈ startedMove m, m.pre.world.ctrl.status.state ∈ [.WaitingForPickupStart, .WaitingForMove] →
    m.pre.activeTripId ∈ id :: acceptedIds past

instance (s : App R) : Decidable (Reported s) := inferInstanceAs (Decidable (_ ∨ _))

instance (past : History (App R) (Turn R) (Effect R)) (m : Moment (App R) (Turn R) (Effect R)) :
    Decidable (KnownId past m) := @instDecidableAnd _ _ (Option.decidableForallMem _) (Option.decidableForallMem _)

/-- What the shared identifier stands for. -/
structure Named (past : History (App R) (Turn R) (Effect R)) (s : App R) : Prop where
  current : Reported s → s.activeTripId ∈ acceptedIds past
  inHand : ∀ report event, .Enqueue report event ∈ s.handler → namesTrip report = true →
    ∃ id ∈ acceptedIds past, tripIdOf event = some id

theorem accepted_iff {os : List (Output R Int64)} : accepted os = true ↔ .Answered true ∈ signals os := by
  simp only [accepted, List.any_eq_true, signals, List.mem_filterMap]
  refine exists_congr fun o => and_congr_right fun _ => ?_
  cases o with
  | EngageRequest engage => cases engage <;> simp [signalOf]
  | _ => simp [signalOf]

theorem readsId_make {act : Act R} (reads : readsId act = true) :
    ∃ report, act = .Make report ∧ namesTrip report = true := by
  cases act with
  | Make report => exact ⟨report, rfl, reads⟩
  | _ => cases reads

theorem tripIdOf_event {s : App R} {report : Report R} {event : VehicleEvent R} (made : report.event s = .ok event)
    (names : namesTrip report = true) : tripIdOf event = some s.activeTripId := by
  cases report with
  | Status _ | Arrive =>
    cases made
    rfl
  | _ => cases names

theorem acceptedIds_other {m : Moment (App R) (Turn R) (Effect R)} {older : History (App R) (Turn R) (Effect R)}
    (other : ∀ job os, .Ran job os ∉ m.outputs) : acceptedIds (m :: older) = acceptedIds older := by
  rw [acceptedIds]
  split
  · rename_i same
    simp [same] at other
  · rename_i same
    simp [same] at other
  · rfl

end

/-- What is under way was so before, or a move was accepted. -/
theorem advance_underWay {ev : Event} {p p' : Phase} {sigs : List Signal} (moved : Advance ev p sigs p')
    (after : underWay p'.state = true) :
    underWay p.state = true ∨ ev ∈ [.GoToPickup, .Move, .HandleMove] ∧ .Answered true ∈ sigs ∧
      p.state ∈ [.WaitingForPickupStart, .WaitingForMove] := by
  cases moved with
  | plan _ _ planned _ _ => revert after planned; cases p'.state <;> simp [underWay, planning]
  | goToPickup asked waiting | move asked waiting =>
    exact .inr ⟨by rcases asked with rfl | rfl <;> simp, by simp, by simp [waiting]⟩
  | _ => simp_all [underWay]

/-- A query that was accepted does not leave a trip under way. -/
theorem advance_query {p p' : Phase} {sigs : List Signal} (moved : Advance .Query p sigs p')
    (yes : .Answered true ∈ sigs) : underWay p'.state = false := by
  cases moved with
  | plan _ _ planned _ _ => revert planned; cases p'.state <;> simp [underWay, planning]
  | refuse _ => simp at yes
  | goToPickup asked _ | failMove asked _ | move asked _ => simp at asked

/-- What is reported is under way. -/
theorem underWay_reporting {ev : Event} {p : Phase} (reporting : Reporting ev p) : underWay p.state = true := by
  rcases reporting with ⟨_, state | state, _⟩ | ⟨_, state, _⟩ <;> rw [state] <;> rfl

section
variable {R : Type} [Zero R] [Add R] [Sub R] [Mul R] [Div R] [NatCast R] [LT R] [DecidableLT R] [CMath R]
variable {D : MapData R} {T : TripTimings} {past : History (App R) (Turn R) (Effect R)} {s s' : App R}

/-- A handler on the strand keeps what the shared identifier stands for. -/
theorem named_run {e : Env R} {job : Job R} {rest : List (Job R)} {w : World R Int64} {os : List (Output R Int64)}
    (run : Runs (Gateway.machine D T) past s) (named : Named past s) (free : s.handler = [])
    (next : s.strand = job :: rest) (known : KnownId past ⟨s, .Run e, [.Ran job os], s'⟩)
    (ran : burst (Strand.machine D T) s.world (job.inputs D e) = .ok (w, os)) :
    Named (⟨s, .Run e, [.Ran job os], s'⟩ :: past)
      { s with world := w, strand := rest, handler := job.callbacks w os } := by
  have moved := job_advance (world_reachable run) ran
  have older : underWay s.world.ctrl.status.state = true → s.activeTripId ∈ acceptedIds past := fun under =>
    named.current (.inl under)
  -- the identifiers that are accepted afterwards, for each kind of handler
  have kept : (∀ id start goal, job ≠ .QueryEta id start goal) → s.activeTripId ∈ acceptedIds past →
      s.activeTripId ∈ acceptedIds (⟨s, .Run e, [.Ran job os], s'⟩ :: past) := by
    intro other member
    cases job with
    | QueryEta id start goal => exact absurd rfl (other id start goal)
    | HandleMoveCommand id =>
      simp only [acceptedIds]
      split
      · exact List.mem_cons_of_mem _ member
      · exact member
    | _ => exact member
  refine ⟨?_, fun _ _ left => absurd left callbacks_enqueue⟩
  rintro (under | ⟨act, left, reads⟩)
  · rcases advance_underWay moved under with before | ⟨asked, yes, waiting⟩
    · cases job with
      | QueryEta id start goal =>
        have no : accepted os = false := by
          by_contra yes
          have ended := advance_query moved (accepted_iff.mp (by simpa using yes))
          cases under.symm.trans ended
        simpa [acceptedIds, no] using older before
      | _ => exact kept (by simp) (older before)
    · cases job with
      | HandleMoveCommand id =>
        have found := known.2 id (by simp [startedMove, started, free, next]) waiting
        simpa [acceptedIds, accepted_iff.mpr yes] using found
      | Engaged seq => simp only [jobEvent] at asked; split at asked <;> simp at asked
      | Deliver delivery => cases delivery <;> simp [jobEvent] at asked
      | _ => simp [jobEvent] at asked
  · obtain ⟨report, rfl, names⟩ := readsId_make reads
    have reporting := job_reports (world_reachable run) ran left names
    refine kept ?_ (older (underWay_reporting reporting))
    rintro id start goal rfl
    rcases reporting with ⟨event, _⟩ | ⟨event, _⟩ <;> cases event

omit [Zero R] [Add R] [Sub R] [Mul R] [Div R] [NatCast R] [LT R] [DecidableLT R] [CMath R] in
/-- An act of the stream's thread stores only known identifiers. -/
theorem named_dispatch {act : Act R} {rest left : List (Act R)} (named : Named past s) (next : s.stream = act :: rest)
    (known : KnownId past ⟨s, .Dispatch, act.effects, s'⟩) :
    Named (⟨s, .Dispatch, act.effects, s'⟩ :: past) { act.apply s with stream := left ++ rest } := by
  have same : acceptedIds (⟨s, .Dispatch, act.effects, s'⟩ :: past) = acceptedIds past :=
    acceptedIds_other fun job os ran => by cases act <;> simp [Act.effects] at ran
  cases act with
  | SetActiveTripId id =>
    exact ⟨fun reported => same ▸ known.1 id (by simp [storedId, dispatched, next]) reported, same ▸ named.inHand⟩
  | _ => exact ⟨same ▸ named.current, same ▸ named.inHand⟩

/-- An act of the running handler makes events up with the shared identifier. -/
theorem named_handle {act : Act R} {rest made : List (Act R)} (run : Runs (Gateway.machine D T) past s)
    (named : Named past s) (next : s.handler = act :: rest) (leaves : act.next s = .ok made) :
    Named (⟨s, .Handler, act.effects, s'⟩ :: past) { act.apply s with handler := made ++ rest } := by
  have same : acceptedIds (⟨s, .Handler, act.effects, s'⟩ :: past) = acceptedIds past :=
    acceptedIds_other fun job os ran => by cases act <;> simp [Act.effects] at ran
  have left : ∀ {a}, a ∈ rest → a ∈ s.handler := fun member => by rw [next]; exact List.mem_cons_of_mem _ member
  have active : (act.apply s).activeTripId = s.activeTripId := by
    have callback := handler_ofCallback run act (by simp [next])
    cases act <;> first | rfl | cases callback
  refine ⟨?_, fun report event member names => ?_⟩
  · rintro (under | ⟨a, member, reads⟩)
    · rw [same, active]
      exact named.current (.inl (by simpa using under))
    · obtain ⟨report, rfl, names⟩ := readsId_make reads
      rcases List.mem_append.mp member with new | old
      · obtain ⟨_, _, _, _, event⟩ := mem_next leaves new
        cases event
      · rw [same, active]
        exact named.current (.inr ⟨_, left old, names⟩)
  · rw [same]
    rcases List.mem_append.mp member with new | old
    · obtain ⟨report', event', rfl, made, own⟩ := mem_next leaves new
      cases own
      exact ⟨s.activeTripId, named.current (.inr ⟨.Make report, by simp [next], names⟩), tripIdOf_event made names⟩
    · exact named.inHand report event (left old) names

/-- In runs whose commands bring known identifiers the shared one stands for the trip. -/
theorem named_along (run : Runs (Gateway.machine D T) past s) (known : Along KnownId past) : Named past s := by
  refine run.invariant_along (I := Named) ?_ ?_ known
  · rintro _ ⟨w, first, rfl⟩
    refine ⟨?_, fun _ _ => nofun⟩
    rintro (under | ⟨_, left, _⟩)
    · obtain ⟨m, now, _, rfl⟩ := first
      change underWay (phaseOf (initialWorld m now).ctrl).state = true at under
      rcases phaseOf_initial (κ := Int64) m now with phase | phase <;>
        · rw [phase] at under
          cases under
    · cases left
  · intro past s i effects s' earlier named stepped known
    cases step_cases stepped with
    | outside w jobs _ _ _ _ ctrl _ _ _ =>
      exact ⟨fun reported => named.current (by simpa [Reported, ctrl] using reported), named.inHand⟩
    | receive command _ => exact ⟨named.current, named.inHand⟩
    | run e job rest w os free next ran => exact named_run earlier named free next known ran
    | dispatch act rest next => exact named_dispatch named next known
    | handle act rest next left leaves => exact named_handle earlier named next leaves

/-- In every run whose commands bring known identifiers while a trip is under
    way, its reports name a trip that the controller has accepted. -/
theorem own_trips (run : Runs (Gateway.machine D T) past s) (known : Along KnownId past) : Along OwnTrip past := by
  refine run.along_of_along ?_ known
  intro past s i effects s' earlier known stepped _ report event queued names other
  rcases queued_cases earlier stepped queued with ⟨_, command⟩ | left
  · cases report <;> simp_all [ofCommand, namesTrip]
  · exact (named_along earlier known).inHand report event left names

end

section
attribute [local instance] streetMath

/-- A whole trip on the street, with a command for each leg. -/
theorem own_trips_on_street : ∃ past s, Runs (Gateway.machine street {}) past s ∧
    .Status vin 8 "COMPLETED" ∈ queued past ∧ Along OwnTrip past := by
  obtain ⟨past, s, run, done⟩ := exists_run (M := Gateway.machine street {})
    (s := initialApp (initialWorld .fresh 0)) (queryTurns 5 ++ pickupTurns 7 ++ dropoffTurns 8) fresh_wired
    (fun past _ => decide (.Status vin 8 "COMPLETED" ∈ queued past ∧ Along KnownId past)) (by decide +kernel)
  obtain ⟨completed, known⟩ := of_decide_eq_true done
  exact ⟨past, s, run, completed, own_trips run known⟩

/-- Another request comes on the way to the pickup. It is rejected, and the
    arrival at the pickup is reported as that of the rejected trip. -/
theorem arrival_of_rejected_trip : ∃ past s, Runs (Gateway.machine street {}) past s ∧ ¬ Along OwnTrip past := by
  obtain ⟨past, s, run, wrong⟩ := exists_run (M := Gateway.machine street {})
    (s := initialApp (initialWorld .fresh 0))
    (queryTurns 5 ++ pickupTurns 7 ++ commandTurns (initOnStreet 9) ++ [.Run (streetAt 24)] ++
      deliveryTurns 25 [.TickTimer] ++ List.replicate 6 .Handler) fresh_wired
    (fun past _ => match past with
      | m :: older => decide (acceptedIds older = [7, 5] ∧
          .Queued (.Status "ARRIVED_AT_PICKUP") (.Status vin 9 "ARRIVED_AT_PICKUP") ∈ m.outputs)
      | [] => false)
    (by decide +kernel)
  refine ⟨past, s, run, fun own => ?_⟩
  cases past with
  | nil => cases wrong
  | cons m older =>
    obtain ⟨ids, arrived⟩ := of_decide_eq_true wrong
    obtain ⟨id, member, same⟩ := own.1 _ _ arrived rfl rfl
    rw [ids] at member
    cases same
    revert member
    decide

end
end AutowareAgent.TripIds
