import AutowareAgent.Arrivals
import AutowareAgent.Queries

/-!
The data of a leg. The ETA, its flag, the route state and the leg marker are
shared by both legs and all queries. A successful answer still quotes each leg
from what was delivered in its own wait: the last ETA while the leg was being
read, after a route that was set while the leg waited for one.
-/
namespace AutowareAgent.LegData
open AutowareAgent.Machines AutowareAgent.Lanes AutowareAgent.Trips AutowareAgent.Strand AutowareAgent.Automaton
open AutowareAgent.Arrivals AutowareAgent.Quotes AutowareAgent.Queries

section
variable {R κ : Type}

/-- A tick takes a query from one state to another on a leg. -/
structure Ticks (e : Env R) (leg : QueryLeg) (prev next : TripState)
    (n : Moment (World R κ) (Input R κ) (Output R κ)) : Prop where
  input : n.input = .Handle e .Tick
  leg : n.pre.ctrl.currentLeg = leg
  prev : n.pre.ctrl.status.state = prev
  next : n.post.ctrl.status.state = next

/-- The ETA that is injected. -/
def injected (m : Moment (World R κ) (Input R κ) (Output R κ)) : Option (R × R) :=
  match m.input with
  | .Handle _ (.Eta distanceM timeSeconds) => some (distanceM, timeSeconds)
  | _ => none

/-- The ETA that was injected last. -/
def lastInjected (past : History (World R κ) (Input R κ) (Output R κ)) : Option (R × R) := past.findSome? injected

/-- The leg waits for its route: its goal was published first by a tick, and
    nothing has left the wait since. -/
def Awaits (leg : QueryLeg) (waiting past : History (World R κ) (Input R κ) (Output R κ)) : Prop :=
  ∃ goal before e, past = waiting ++ goal :: before ∧
    Ticks e leg .QueryPublishingGoal .QueryWaitingRoute goal ∧
    (∃ pose, .Goal .QueryPublishingGoal pose ∈ goal.outputs) ∧
    ∀ n ∈ waiting, n.post.ctrl.status.state = .QueryWaitingRoute

/-- The ETA of the leg is being read since the tick: the last route state in the
    leg's wait was `SET`, and nothing has left the reading since. -/
def Reads (e : Env R) (leg : QueryLeg) (reading past : History (World R κ) (Input R κ) (Output R κ)) : Prop :=
  ∃ entry before, past = reading ++ entry :: before ∧
    Ticks e leg .QueryWaitingRoute .QueryReadingEta entry ∧
    (∃ waiting, Awaits leg waiting before ∧ lastDelivered waiting = some .Set) ∧
    ∀ n ∈ reading, n.post.ctrl.status.state = .QueryReadingEta

end

section
variable {R κ : Type} [Zero R]

/-- The leg is quoted with the last ETA injected while it was read, or with none
    when none was and it has settled. -/
def OwnEta (T : TripTimings) (leg : QueryLeg) (now : Int) (past : History (World R κ) (Input R κ) (Output R κ))
    (eta : LegEta R) : Prop :=
  ∃ reading e, Reads e leg reading past ∧
    match lastInjected reading with
    | some last => (eta.distanceM, eta.etaSeconds) = last
    | none => (eta.distanceM, eta.etaSeconds) = (0, 0) ∧ T.etaSettleMs ≤ elapsedMs now e.now

/-- The pickup leg was quoted from its own data, and only its trip leg has been
    queried since. -/
def OwnPickup (T : TripTimings) (past : History (World R κ) (Input R κ) (Output R κ)) (eta : LegEta R) : Prop :=
  ∃ trip ended before e, past = trip ++ ended :: before ∧
    Ticks e .Pickup .QueryReadingEta .QueryPublishingInitialPose ended ∧ OwnEta T .Pickup e.now before eta ∧
    ∀ n ∈ trip, querying n.post.ctrl.status.state = true ∧ n.post.ctrl.currentLeg = .Trip

/-- A successful answer quotes both legs from their own data. -/
def OwnData (T : TripTimings) (past : History (World R κ) (Input R κ) (Output R κ))
    (m : Moment (World R κ) (Input R κ) (Output R κ)) : Prop :=
  ∀ cb result, .QueryResult cb result ∈ m.outputs → result.success = true →
    ∃ e, Ticks e .Trip .QueryReadingEta .RoutesReady m ∧ OwnEta T .Trip e.now past result.tripLeg ∧
      OwnPickup T past result.pickupLeg

/-- What the fields of the pipeline are worth in a history. -/
structure Sourced (T : TripTimings) (past : History (World R κ) (Input R κ) (Output R κ)) (p : Pipeline R κ) :
    Prop where
  waiting : p.state = .QueryWaitingRoute →
    ∃ waiting, Awaits p.leg waiting past ∧ ∀ s, p.route = some s → lastDelivered waiting = some s
  reading : p.state = .QueryReadingEta → ∃ reading e, Reads e p.leg reading past ∧ p.enteredAt = e.now ∧
    lastInjected reading = if p.etaReceived then some (p.distanceM, p.etaSeconds) else none
  pickup : querying p.state = true → p.leg = .Trip → OwnPickup T past p.result.pickupLeg

/-! ### Steps -/

section
variable {T : TripTimings} {past : History (World R κ) (Input R κ) (Output R κ)}
variable {m : Moment (World R κ) (Input R κ) (Output R κ)} {p p' : Pipeline R κ}

theorem sourced_closed (closed : Closed p p') : Sourced T past p' := by
  have idle := closed.state
  refine ⟨fun state => ?_, fun state => ?_, fun query => ?_⟩
  · cases idle.symm.trans state
  · cases idle.symm.trans state
  · rw [idle] at query
    cases query

/-- Outside of queries nothing is to be shown. -/
theorem sourced_outside (outside : querying p'.state = false) : Sourced T past p' := by
  refine ⟨fun state => ?_, fun state => ?_, fun query => ?_⟩
  · rw [state] at outside
    cases outside
  · rw [state] at outside
    cases outside
  · rw [outside] at query
    cases query

/-- A query that neither waits for its route nor reads its ETA keeps its pickup leg. -/
theorem sourced_between (waits : p'.state ≠ .QueryWaitingRoute) (reads : p'.state ≠ .QueryReadingEta)
    (pickup : querying p'.state = true → p'.leg = .Trip → OwnPickup T past p'.result.pickupLeg) :
    Sourced T past p' :=
  ⟨fun state => absurd state waits, fun state => absurd state reads, pickup⟩

omit [Zero R] in
theorem Awaits.later {leg : QueryLeg} {waiting : History (World R κ) (Input R κ) (Output R κ)}
    (awaits : Awaits leg waiting past) (state : m.post.ctrl.status.state = .QueryWaitingRoute) :
    Awaits leg (m :: waiting) (m :: past) := by
  obtain ⟨goal, before, e, split, ticks, published, wait⟩ := awaits
  exact ⟨goal, before, e, by rw [split]; rfl, ticks, published, List.forall_mem_cons.mpr ⟨state, wait⟩⟩

omit [Zero R] in
theorem Reads.later {e : Env R} {leg : QueryLeg} {reading : History (World R κ) (Input R κ) (Output R κ)}
    (reads : Reads e leg reading past) (state : m.post.ctrl.status.state = .QueryReadingEta) :
    Reads e leg (m :: reading) (m :: past) := by
  obtain ⟨entry, before, split, ticks, heard, read⟩ := reads
  exact ⟨entry, before, by rw [split]; rfl, ticks, heard, List.forall_mem_cons.mpr ⟨state, read⟩⟩

theorem OwnPickup.later {eta : LegEta R} (own : OwnPickup T past eta)
    (query : querying m.post.ctrl.status.state = true ∧ m.post.ctrl.currentLeg = .Trip) :
    OwnPickup T (m :: past) eta := by
  obtain ⟨trip, ended, before, e, split, ticks, own, legs⟩ := own
  exact ⟨m :: trip, ended, before, e, by rw [split]; rfl, ticks, own, List.forall_mem_cons.mpr ⟨query, legs⟩⟩

/-- A step within a state of the query, whose route state is one that was heard
    and whose ETA is one that was injected. -/
theorem sourced_stay (sourced : Sourced T past p) (post : pipelineOf m.post.ctrl = p')
    (same : p'.state = p.state ∧ p'.leg = p.leg ∧ p'.result = p.result ∧ p'.enteredAt = p.enteredAt)
    (heard : ∀ s, p'.route = some s → delivered m = some s ∨ delivered m = none ∧ p.route = some s)
    (read : p.state = .QueryReadingEta → (if p'.etaReceived then some (p'.distanceM, p'.etaSeconds) else none) =
      (injected m).or (if p.etaReceived then some (p.distanceM, p.etaSeconds) else none)) :
    Sourced T (m :: past) p' := by
  obtain ⟨state, leg, result, entered⟩ := same
  have stays : m.post.ctrl.status.state = p.state := (congrArg Pipeline.state post).trans state
  have stays_leg : m.post.ctrl.currentLeg = p.leg := (congrArg Pipeline.leg post).trans leg
  refine ⟨fun now => ?_, fun now => ?_, fun query trip => ?_⟩
  · rw [state] at now
    obtain ⟨waiting, awaits, older⟩ := sourced.waiting now
    refine ⟨m :: waiting, by rw [leg]; exact awaits.later (stays.trans now), fun s stored => ?_⟩
    simp only [lastDelivered, List.findSome?_cons]
    rcases heard s stored with new | ⟨none, kept⟩
    · rw [new]
    · rw [none]
      exact older s kept
  · rw [state] at now
    obtain ⟨reading, e, reads, since, last⟩ := sourced.reading now
    refine ⟨m :: reading, e, by rw [leg]; exact reads.later (stays.trans now), entered.trans since, ?_⟩
    rw [read now, ← last]
    simp only [lastInjected, List.findSome?_cons]
    cases injected m <;> rfl
  · rw [result]
    rw [leg] at trip
    refine (sourced.pickup (by rw [← state]; exact query) trip).later ⟨?_, stays_leg.trans trip⟩
    rw [stays, ← state]
    exact query

/-- A step to another state of the query on the same leg. -/
theorem pickup_next (sourced : Sourced T past p) (post : pipelineOf m.post.ctrl = p')
    (state : querying p.state = true) (same : p'.leg = p.leg ∧ p'.result = p.result)
    (next : querying p'.state = true) (trip : p'.leg = .Trip) :
    OwnPickup T (m :: past) p'.result.pickupLeg := by
  obtain ⟨leg, result⟩ := same
  rw [result]
  refine (sourced.pickup state (leg.symm.trans trip)).later ⟨?_, (congrArg Pipeline.leg post).trans trip⟩
  rw [show m.post.ctrl.status.state = p'.state from congrArg Pipeline.state post]
  exact next

/-- A leg that a tick ends is quoted from its own data. -/
theorem own_eta {now : Int} {d t : R} (eta : LegEta R) (sourced : Sourced T past p) (state : p.state = .QueryReadingEta)
    (measured : Measured T now p d t) (quoted : eta.distanceM = d ∧ eta.etaSeconds = t) :
    OwnEta T p.leg now past eta := by
  obtain ⟨reading, e, reads, since, last⟩ := sourced.reading state
  obtain ⟨rfl, rfl⟩ := quoted
  refine ⟨reading, e, reads, ?_⟩
  rcases measured with ⟨received, distanceM, etaSeconds⟩ | ⟨none, settled, distanceM, etaSeconds⟩
  · rw [last, received, distanceM, etaSeconds]
    rfl
  · rw [last, none, distanceM, etaSeconds]
    rw [since] at settled
    exact ⟨rfl, settled⟩

end

section
variable {m : Moment (World R κ) (Input R κ) (Output R κ)}

omit [Zero R] in
theorem delivered_routeState {e : Env R} {s : RouteState} (input : m.input = .Handle e (.RouteState s)) :
    delivered m = some s := by
  simp [delivered, input, eventOf, operationEvent]

omit [Zero R] in
theorem delivered_none (other : ∀ e s, m.input ≠ .Handle e (.RouteState s)) : delivered m = none := by
  unfold delivered
  split
  · rename_i s event
    cases input : m.input with
    | Handle e op =>
      rw [input] at event
      cases op with
      | RouteState s => exact absurd input (other e s)
      | _ => cases event
    | ModeResponse seq success =>
      simp only [input, eventOf] at event
      split at event <;> cases event
    | EngageResponse seq code => rw [input] at event; cases event
    | Acknowledge e seq =>
      simp only [input, eventOf] at event
      split at event <;> cases event
  · rfl

omit [Zero R] in
theorem injected_none (other : ∀ e d t, m.input ≠ .Handle e (.Eta d t)) : injected m = none := by
  unfold injected
  split
  · rename_i e d t input
    exact absurd input (other e d t)
  · rfl

end

end

section
variable {R κ : Type} [Zero R] [Add R] [Sub R] [Mul R] [NatCast R] [LT R] [DecidableLT R] [CMath R]
variable {D : MapData R} {T : TripTimings} {past : History (World R κ) (Input R κ) (Output R κ)}
variable {m : Moment (World R κ) (Input R κ) (Output R κ)} {i : Input R κ} {p p' : Pipeline R κ}
variable {told : List (Notice R κ)}

/-- Every step keeps the fields of the pipeline sourced. -/
theorem sourced_step (sourced : Sourced T past p) (moved : Progress D T i p told p') (input : m.input = i)
    (pre : pipelineOf m.pre.ctrl = p) (post : pipelineOf m.post.ctrl = p')
    (goal : p.state = .QueryPublishingGoal → eventOf m.pre i = .Tick →
      ∃ pose, .Goal .QueryPublishingGoal pose ∈ m.outputs) : Sourced T (m :: past) p' := by
  have silent : (∀ e s, i ≠ .Handle e (.RouteState s)) → delivered m = none :=
    fun other => delivered_none (by rw [input]; exact other)
  have unread : (∀ e d t, i ≠ .Handle e (.Eta d t)) → injected m = none :=
    fun other => injected_none (by rw [input]; exact other)
  have stay : ∀ {p'}, pipelineOf m.post.ctrl = p' → p'.state = p.state ∧ p'.leg = p.leg ∧ p'.result = p.result ∧
      p'.enteredAt = p.enteredAt → (∀ e s, i ≠ .Handle e (.RouteState s)) → (∀ e d t, i ≠ .Handle e (.Eta d t)) →
      (p'.route = p.route ∨ p'.route = none) → (p'.etaReceived = p.etaReceived ∧ p'.distanceM = p.distanceM ∧
      p'.etaSeconds = p.etaSeconds) → Sourced T (m :: past) p' := by
    rintro p' post same noRoute noEta route ⟨received, distanceM, etaSeconds⟩
    refine sourced_stay sourced post same (fun s stored => .inr ⟨silent noRoute, ?_⟩) fun _ => ?_
    · rcases route with kept | cleared
      · exact kept.symm.trans stored
      · cases cleared.symm.trans stored
    · rw [unread noEta, received, distanceM, etaSeconds, Option.none_or]
  have ticks : ∀ {e : Env R} {s s'}, i = .Handle e .Tick → p.state = s → p'.state = s' →
      Ticks e p.leg s s' m := by
    rintro e s s' rfl state next
    exact ⟨input, congrArg Pipeline.leg pre, (congrArg Pipeline.state pre).trans state,
      (congrArg Pipeline.state post).trans next⟩
  cases moved with
  | quiet calm _ =>
    refine sourced_stay sourced post ⟨rfl, rfl, rfl, rfl⟩ (fun s stored => .inr ⟨silent ?_, stored⟩) fun reading => ?_
    · rintro e s rfl
      exact calm
    · rw [unread ?_, Option.none_or]
      rintro e d t rfl
      exact calm reading
  | awaitLocalisation _ _ _ | awaitRoute _ _ _ | awaitEta _ _ _ | refuse _ =>
    exact stay post ⟨rfl, rfl, rfl, rfl⟩ (by simp) (by simp) (.inl rfl) ⟨rfl, rfl, rfl⟩
  | locState s => exact stay post ⟨rfl, rfl, rfl, rfl⟩ (by simp) (by simp) (.inl rfl) ⟨rfl, rfl, rfl⟩
  | refuseTrip _ => exact stay post ⟨rfl, rfl, rfl, rfl⟩ (by simp) (by simp) (.inr rfl) ⟨rfl, rfl, rfl⟩
  | routeState s =>
    refine sourced_stay sourced post ⟨rfl, rfl, rfl, rfl⟩ (fun s' stored => ?_) fun _ => ?_
    · exact .inl ((delivered_routeState input).trans stored)
    · rw [unread (by simp), Option.none_or]
  | eta d t _ =>
    refine sourced_stay sourced post ⟨rfl, rfl, rfl, rfl⟩ (fun s' stored => .inr ⟨silent (by simp), stored⟩) fun _ => ?_
    simp [injected, input]
  | cancel closed | failOpen _ closed _ | fail _ closed _ => exact sourced_closed closed
  | initialised _ _ | acceptTrip _ _ | endTrip _ _ _ _ _ => exact sourced_outside rfl
  | drive _ _ _ _ _ _ next _ _ _ => exact sourced_outside (querying_of_driving next)
  | openQuery _ _ _ => exact sourced_between (by simp) (by simp) (by rintro - ⟨⟩)
  | publishPose state | localised state _ =>
    exact sourced_between (by simp) (by simp) (pickup_next sourced post (by simp [state, querying]) ⟨rfl, rfl⟩)
  | publishGoal state =>
    have sent : Ticks _ p.leg _ .QueryWaitingRoute m := ticks rfl state rfl
    have awaits : Awaits p.leg [] (m :: past) := ⟨m, past, _, rfl, sent, goal state rfl, List.forall_mem_nil _⟩
    have pickup := pickup_next sourced post (by simp [state, querying]) ⟨rfl, rfl⟩
    exact ⟨fun _ => ⟨[], awaits, by simp⟩, by simp, pickup⟩
  | routeSet state set =>
    obtain ⟨waiting, awaits, heard⟩ := sourced.waiting state
    have enters : Ticks _ p.leg _ .QueryReadingEta m := ticks rfl state rfl
    have reads : Reads _ p.leg [] (m :: past) :=
      ⟨m, past, rfl, enters, ⟨waiting, awaits, heard .Set set⟩, List.forall_mem_nil _⟩
    have pickup := pickup_next sourced post (by simp [state, querying]) ⟨rfl, rfl⟩
    exact ⟨by simp, fun _ => ⟨[], _, reads, rfl, rfl⟩, pickup⟩
  | endPickup d t pickup goal state leg measured _ _ =>
    have own := own_eta ⟨true, d, t, p.startId, p.goalId, ""⟩ sourced state measured ⟨rfl, rfl⟩
    have ends := ticks rfl state rfl
    rw [leg] at own ends
    exact sourced_between (by simp) (by simp) fun _ _ => ⟨[], m, past, _, rfl, ends, own, List.forall_mem_nil _⟩

/-- Only the tick that ends the trip leg answers with success. -/
theorem success_progress {cb : κ} {result : EtaQueryResult R} (moved : Progress D T i p told p')
    (answered : .Answered cb result ∈ told) (success : result.success = true) :
    ∃ e, i = .Handle e .Tick ∧ p.state = .QueryReadingEta ∧ p'.state = .RoutesReady ∧ p.leg = .Trip ∧
      Measured T e.now p result.tripLeg.distanceM result.tripLeg.etaSeconds ∧
      result.pickupLeg = p.result.pickupLeg := by
  have own : ∀ {asked : Option κ} {r : EtaQueryResult R}, .Answered cb result ∈ Queries.answered asked r →
      result = r := by
    intro asked r member
    cases asked with
    | none => cases member
    | some asked =>
      simp only [Queries.answered, Option.map_some, Option.toList_some, List.mem_singleton, Notice.Answered.injEq]
        at member
      exact member.2
  cases moved with
  | quiet _ refused => rcases refused with rfl | rfl <;> simp at answered
  | drive _ _ _ _ _ _ _ _ _ accepted => rcases accepted with rfl | rfl <;> simp at answered
  | refuse no | failOpen _ _ no =>
    simp only [List.mem_append, List.mem_singleton, reduceCtorEq, or_false] at answered
    rw [own answered, no] at success
    cases success
  | fail _ _ no =>
    rw [own answered, no] at success
    cases success
  | endTrip d t state leg measured =>
    simp only [List.mem_append, List.mem_singleton, reduceCtorEq, or_false] at answered
    obtain rfl := own answered
    exact ⟨_, rfl, state, rfl, leg, measured, rfl⟩
  | _ => simp at answered

end

/-! ### Runs -/

section
variable {R κ : Type} [Zero R] [Add R] [Sub R] [Mul R] [Div R] [NatCast R] [LT R] [DecidableLT R] [CMath R]
variable {D : MapData R} {T : TripTimings} {past : History (World R κ) (Input R κ) (Output R κ)} {w w' : World R κ}
variable {i : Input R κ} {os : List (Output R κ)}

/-- A tick that takes a query on to wait for its route publishes its goal. -/
theorem publishes_goal (stepped : step D T w i = .ok (w', os)) (state : w.ctrl.status.state = .QueryPublishingGoal)
    (event : eventOf w i = .Tick) : ∃ pose, .Goal .QueryPublishingGoal pose ∈ os := by
  obtain ⟨e, rfl⟩ := eventOf_tick event
  obtain ⟨c, ticked, rfl, _⟩ := handle_cases stepped
  change w.ctrl.tick D T e = .ok c at ticked
  simp only [TripController.tick, state, Except.ok.injEq] at ticked
  subst ticked
  refine ⟨w.ctrl.status.goalPose, ?_⟩
  simp [TripController.tickQueryPublishingGoal, TripController.doPublishGoal, TripController.emit, state]

theorem sourced_run (run : Runs (machine D T) past w) : Sourced T past (pipelineOf w.ctrl) := by
  refine run.invariant (I := fun past w => Sourced T past (pipelineOf w.ctrl)) ?_ ?_
  · rintro _ ⟨m, now, _, rfl⟩
    refine sourced_outside ?_
    simp only [initialWorld, TripController.initializeInMap]
    split <;> rfl
  · intro past w i os w' earlier sourced stepped
    exact sourced_step sourced (step_progress earlier stepped) rfl rfl rfl (publishes_goal stepped)

/-- In every run each leg is quoted from its own data. -/
theorem quotes_own_data (run : Runs (machine D T) past w) : Along (OwnData T) past := by
  refine run.along fun past w i os w' earlier stepped cb result answered success => ?_
  obtain ⟨e, rfl, state, ready, leg, measured, pickup⟩ :=
    success_progress (step_progress earlier stepped) (mem_notices answered rfl) success
  have sourced := sourced_run earlier
  have trip := own_eta result.tripLeg sourced state measured ⟨rfl, rfl⟩
  rw [leg] at trip
  refine ⟨e, ⟨rfl, leg, state, ready⟩, trip, ?_⟩
  rw [pickup]
  exact sourced.pickup (by simp [state, querying]) leg

end

section
attribute [local instance] streetMath

/-- A query on the street whose legs are both quoted. -/
theorem quotes_own_data_on_street : ∃ past w, Runs (machine street {} : Machine (World ℚ Unit) _ _ _) past w ∧
    w.ctrl.status.state = .RoutesReady ∧ Along (OwnData {}) past := by
  obtain ⟨past, w, run, quoted⟩ := exists_run (M := machine street {}) (s := initialWorld .fresh 0)
    (quoteOnStreet (some ())) fresh_starts (fun _ w => decide (w.ctrl.status.state = .RoutesReady)) (by decide +kernel)
  exact ⟨past, w, run, by simpa using quoted, quotes_own_data run⟩

end
end AutowareAgent.LegData
