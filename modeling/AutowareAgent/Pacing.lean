import AutowareAgent.Queries

/-!
How often the poses and goals are published again. A wait begins with a
publication, and `transitionTo` then resets the time of the last one to the
clock's epoch, so the first tick of a wait publishes at once. The retries keep
their distance exactly when every such tick comes late enough after the wait
began.
-/
namespace AutowareAgent.Pacing
open AutowareAgent.Machines AutowareAgent.Lanes AutowareAgent.LaneCache AutowareAgent.Trips AutowareAgent.Strand
open AutowareAgent.TripSteps AutowareAgent.Automaton

/-- The milliseconds between two publications in the waits that publish again. -/
def spacing : TripState → Option Int
  | .InitializingInMap | .QueryWaitingLocalisation | .WaitingLocalisation => some 1000
  | .QueryWaitingRoute => some 2000
  | _ => none

theorem spacing_pos {s : TripState} {ms : Int} (waits : spacing s = some ms) : 1000 ≤ ms := by
  unfold spacing at waits
  split at waits <;> cases waits <;> omega

theorem elapsedMs_pos {now since ms : Int} (long : 1000 ≤ ms) (later : ms ≤ elapsedMs now since) : since < now := by
  unfold elapsedMs at later
  by_contra early
  have back : 0 ≤ (since - now).tdiv 1000000 := Int.tdiv_nonneg (by omega) (by omega)
  rw [← Int.neg_sub since now, Int.neg_tdiv] at later
  omega

section
variable {R κ : Type}

/-- What the wait is published for: the goal of a route, or an initial pose. -/
def publication (s : TripState) (o : Output R κ) : Bool :=
  match s, o with
  | .QueryWaitingRoute, .Goal _ _ => true
  | .QueryWaitingRoute, _ => false
  | _, .InitialPose _ => true
  | _, _ => false

def publishes (s : TripState) (os : List (Output R κ)) : Bool := os.any (publication s)

def clock : Input R κ → Option Int
  | .Handle e _ | .Acknowledge e _ => some e.now
  | .ModeResponse _ _ | .EngageResponse _ _ => none

/-- When a moment publishes for a wait in the state. -/
def publishedAt (s : TripState) (m : Moment (World R κ) (Input R κ) (Output R κ)) : Option Int :=
  if publishes s m.outputs then clock m.input else none

/-- The time of the latest publication, before the first that of `initializeInMap`. -/
def lastPublished (s : TripState) : History (World R κ) (Input R κ) (Output R κ) → World R κ → Int
  | [], w => w.ctrl.stateEnteredAt
  | m :: older, _ => (publishedAt s m).getD (lastPublished s older m.pre)

/-- A tick in a wait that publishes does so at the distance from the latest publication. -/
def Paced (past : History (World R κ) (Input R κ) (Output R κ))
    (m : Moment (World R κ) (Input R κ) (Output R κ)) : Prop :=
  ∀ e ms, m.input = .Handle e .Tick → spacing m.pre.ctrl.status.state = some ms →
    publishes m.pre.ctrl.status.state m.outputs = true →
      ms ≤ elapsedMs e.now (lastPublished m.pre.ctrl.status.state past m.pre)

/-- Publishing the goal again once two seconds have passed. -/
def goalAgain (now : Int) (c : TripController R κ) : TripController R κ :=
  if 2000 ≤ elapsedMs now c.lastPublishTime then { c.doPublishGoal c.status.goalPose with lastPublishTime := now }
  else c

/-- What the wait is for has not come. -/
def Unanswered (c : TripController R κ) : Prop :=
  if c.status.state = .QueryWaitingRoute then c.currentRouteState ≠ some .Set else c.localised = false

/-- The first tick that publishes in a wait comes at the distance from the wait's beginning. -/
def Rested (m : Moment (World R κ) (Input R κ) (Output R κ)) : Prop :=
  ∀ e ms, m.input = .Handle e .Tick → spacing m.pre.ctrl.status.state = some ms → Unanswered m.pre.ctrl →
    m.pre.ctrl.lastPublishTime = 0 → ms ≤ elapsedMs e.now 0 → ms ≤ elapsedMs e.now m.pre.ctrl.stateEnteredAt

/-- The stored time is that of the latest publication, or still reset. -/
structure Stamped (published : Int) (c : TripController R κ) : Prop where
  reset : c.lastPublishTime = 0 → published = c.stateEnteredAt
  stored : c.lastPublishTime ≠ 0 → 0 < c.lastPublishTime ∧ published = c.lastPublishTime

/-! ### Steps -/

/-- What an operation does to a wait that it ends in. -/
inductive Waits (now : Int) (c : TripController R κ) (op : Operation R κ) (c' : TripController R κ) : Prop
  | stays (state : c'.status.state = c.status.state) (entered : c'.stateEnteredAt = c.stateEnteredAt)
      (last : c'.lastPublishTime = c.lastPublishTime) (silent : publishes c'.status.state c'.out = false)
  | again (state : c'.status.state = c.status.state) (ticked : op = .Tick)
      (due : ∀ ms, spacing c.status.state = some ms → ms ≤ elapsedMs now c.lastPublishTime)
      (last : c'.lastPublishTime = now) (published : publishes c'.status.state c'.out = true)
  | enters (entered : c'.stateEnteredAt = now) (last : c'.lastPublishTime = 0)
      (published : publishes c'.status.state c'.out = true)

@[simp] theorem publishes_nil (s : TripState) : publishes s ([] : List (Output R κ)) = false := rfl

@[simp] theorem publishes_append (s : TripState) (os os' : List (Output R κ)) :
    publishes s (os ++ os') = (publishes s os || publishes s os') :=
  List.any_append

@[simp] theorem publishes_cons (s : TripState) (o : Output R κ) (os : List (Output R κ)) :
    publishes s (o :: os) = (publication s o || publishes s os) := rfl

@[simp] theorem publication_result (s : TripState) (cb : κ) (result : EtaQueryResult R) :
    publication s (.QueryResult cb result) = false := by
  cases s <;> rfl

@[simp] theorem publication_change (s prev next : TripState) :
    publication s (.StateChange prev next : Output R κ) = false := by
  cases s <;> rfl

@[simp] theorem publishes_change (s prev next : TripState) (same : Prop) [Decidable same] :
    publishes s (if same then [] else [.StateChange prev next] : List (Output R κ)) = false := by
  split <;> simp

@[simp] theorem publication_returned (s : TripState) (ok : Bool) :
    publication s (.Returned ok : Output R κ) = false := by
  cases s <;> rfl

/-- An initial pose is what a wait for localisation is published for. -/
theorem publication_pose {s : TripState} (localisation : s ≠ .QueryWaitingRoute) (pose : Pose R) :
    publication s (.InitialPose pose : Output R κ) = true := by
  cases s <;> first | rfl | exact absurd rfl localisation

section
variable {c c' : TripController R κ} {now : Int} {op : Operation R κ}

/-- A wait goes on while nothing is published. -/
theorem waits_quiet (quiet : c.out = []) (state : c'.status.state = c.status.state)
    (entered : c'.stateEnteredAt = c.stateEnteredAt) (last : c'.lastPublishTime = c.lastPublishTime)
    (out : c'.out = c.out) : Waits now c op c' :=
  .stays state entered last (by rw [out, quiet]; rfl)

/-- A tick in a wait for localisation publishes the pose again when it is due. -/
theorem republish_waits (now : Int) (quiet : c.out = []) (waits : spacing c.status.state = some 1000)
    (localisation : c.status.state ≠ .QueryWaitingRoute) (pose : Pose R) :
    Waits now c .Tick (c.republishInitialPose now pose) := by
  unfold TripController.republishInitialPose
  split
  · rename_i due
    refine .again rfl rfl ?_ rfl ?_
    · intro ms own
      cases waits.symm.trans own
      exact due
    · simp [TripController.doPublishInitialPose, TripController.emit, publication_pose localisation]
  · exact waits_quiet quiet rfl rfl rfl rfl

/-- And it publishes only then. -/
theorem republish_publishes (now : Int) (quiet : c.out = []) (localisation : c.status.state ≠ .QueryWaitingRoute)
    (pose : Pose R) :
    publishes c.status.state (c.republishInitialPose now pose).out = true ↔
      1000 ≤ elapsedMs now c.lastPublishTime := by
  unfold TripController.republishInitialPose
  split
  · rename_i due
    simp [TripController.doPublishInitialPose, TripController.emit, publication_pose localisation, due]
  · rename_i early
    simp [quiet, early]

/-- So does a tick in the wait for the route with the goal. -/
theorem goalAgain_waits (quiet : c.out = []) (state : c.status.state = .QueryWaitingRoute) :
    Waits now c .Tick (goalAgain now c) := by
  unfold goalAgain
  split
  · rename_i due
    refine .again rfl rfl ?_ rfl ?_
    · intro ms own
      rw [state] at own
      cases own
      exact due
    · simp [TripController.doPublishGoal, TripController.emit, state, publication]
  · exact waits_quiet quiet rfl rfl rfl rfl

theorem goalAgain_publishes (quiet : c.out = []) :
    publishes .QueryWaitingRoute (goalAgain now c).out = true ↔ 2000 ≤ elapsedMs now c.lastPublishTime := by
  unfold goalAgain
  split
  · rename_i due
    simp [TripController.doPublishGoal, TripController.emit, publication, due]
  · rename_i early
    simp [quiet, early]

@[simp] theorem republish_state (pose : Pose R) :
    (c.republishInitialPose now pose).status.state = c.status.state := by
  unfold TripController.republishInitialPose
  split <;> rfl

end

end

section
variable {R κ : Type} [Zero R] [Add R] [Sub R] [Mul R] [Div R] [NatCast R] [LT R] [DecidableLT R] [CMath R]
variable {D : MapData R} {T : TripTimings} {e : Env R} {c c' : TripController R κ} {ms : Int}

omit [Add R] [Sub R] [Mul R] [Div R] [NatCast R] [LT R] [DecidableLT R] [CMath R] in
/-- A failed query publishes nothing more, and is in no wait. -/
theorem failQuery_publishes (s : TripState) (now : Int) (reason : String) :
    publishes s (c.failQuery now reason).out = publishes s c.out ∧
      spacing (c.failQuery now reason).status.state = none := by
  rw [failQuery_eq]
  cases calls : c.queryCb <;> simp [TripStatus.initial, spacing]

omit [Add R] [Sub R] [Mul R] [Div R] [NatCast R] [LT R] [DecidableLT R] [CMath R] in
theorem tickQueryWaitingLocalisation_waits (quiet : c.out = []) (state : c.status.state = .QueryWaitingLocalisation)
    (waits : spacing (c.tickQueryWaitingLocalisation T e.now).status.state = some ms) :
    Waits e.now c .Tick (c.tickQueryWaitingLocalisation T e.now) := by
  have again := republish_waits e.now quiet (by rw [state]; rfl) (by simp [state]) c.status.startPose
  unfold TripController.tickQueryWaitingLocalisation at waits ⊢
  dsimp only at waits ⊢
  split at waits
  · rename_i lost
    rw [if_pos lost]
    split at waits
    · rw [(failQuery_publishes .Idle _ _).2] at waits
      cases waits
    · rename_i early
      rw [if_neg early]
      exact again
  · rw [transitionTo_state] at waits
    cases waits

omit [Add R] [Sub R] [Mul R] [Div R] [NatCast R] [LT R] [DecidableLT R] [CMath R] in
/-- A tick that still waits for the route publishes the goal again when it is due,
    and may fail the query then. -/
theorem tickQueryWaitingRoute_unset (T : TripTimings) (now : Int) (unset : c.currentRouteState ≠ some .Set) :
    ∃ reason, c.tickQueryWaitingRoute T now =
      if T.routeTimeoutMs ≤ elapsedMs now c.stateEnteredAt then (goalAgain now c).failQuery now reason
      else goalAgain now c := by
  have entered : (goalAgain now c).stateEnteredAt = c.stateEnteredAt := by
    unfold goalAgain
    split <;> rfl
  unfold TripController.tickQueryWaitingRoute
  rw [if_pos unset, ← entered]
  exact ⟨_, rfl⟩

omit [Add R] [Sub R] [Mul R] [Div R] [NatCast R] [LT R] [DecidableLT R] [CMath R] in
theorem tickQueryWaitingRoute_waits (quiet : c.out = []) (state : c.status.state = .QueryWaitingRoute)
    (waits : spacing (c.tickQueryWaitingRoute T e.now).status.state = some ms) :
    Waits e.now c .Tick (c.tickQueryWaitingRoute T e.now) := by
  by_cases set : c.currentRouteState = some .Set
  · unfold TripController.tickQueryWaitingRoute at waits
    rw [if_neg (not_not.mpr set), transitionTo_state] at waits
    cases waits
  · obtain ⟨reason, ticked⟩ := tickQueryWaitingRoute_unset T e.now set
    rw [ticked] at waits ⊢
    split at waits
    · rw [(failQuery_publishes .Idle _ _).2] at waits
      cases waits
    · rename_i early
      rw [if_neg early]
      exact goalAgain_waits quiet state

/-- A leg that ends is in no wait. -/
theorem finishQueryLeg_spacing {now : Int} (ran : c.finishQueryLeg D now = .ok c') :
    spacing c'.status.state = none := by
  rcases finishQueryLeg_cases ran with ⟨_, _, _, started⟩ | ⟨_, rfl⟩
  · rcases startQueryLeg_cases started with ⟨_, _, _, _, rfl⟩ | ⟨_, _, _, _, _, _, _, _, rfl⟩
    · exact (failQuery_publishes .Idle _ _).2
    · rw [transitionTo_state]
      rfl
  · rw [transitionTo_state]
    rfl

omit [Zero R] [Add R] [Sub R] [Mul R] [Div R] [NatCast R] [LT R] [DecidableLT R] [CMath R] in
theorem tickDriving_waits {now : Int} {arrived : Output R κ} {next : TripState} (quiet : c.out = [])
    (other : spacing next = none) (waits : spacing (c.tickDriving now arrived next).status.state = some ms) :
    Waits now c .Tick (c.tickDriving now arrived next) := by
  rcases tickDriving_cases c now arrived next with same | ⟨_, there⟩
  · rw [same]
    exact waits_quiet quiet rfl rfl rfl rfl
  · rw [there, transitionTo_state, other] at waits
    cases waits

/-- What a tick does to a wait. -/
theorem tick_waits (quiet : c.out = []) (ran : c.tick D T e = .ok c') (waits : spacing c'.status.state = some ms) :
    Waits e.now c .Tick c' := by
  have left : ∀ {next}, c'.status.state = next → spacing next = none → Waits e.now c .Tick c' := by
    rintro _ rfl none
    cases none.symm.trans waits
  unfold TripController.tick at ran
  cases state : c.status.state <;> rw [state] at ran <;> simp only [Except.ok.injEq] at ran
  case QueryReadingEta =>
    unfold TripController.tickQueryReadingEta at ran
    split at ran
    · exact left rfl (finishQueryLeg_spacing ran)
    · split at ran
      · exact left rfl (finishQueryLeg_spacing ran)
      · cases ran
        exact waits_quiet quiet rfl rfl rfl rfl
  all_goals subst ran
  case InitializingInMap =>
    unfold TripController.tickInitializingInMap at left ⊢
    split
    · exact republish_waits e.now quiet (by rw [state]; rfl) (by simp [state]) c.initPose
    · rename_i localised
      rw [if_neg localised] at left
      exact left (transitionTo_state _ _ _) rfl
  case QueryPublishingInitialPose | PublishingInitialPose =>
    refine .enters ?_ ?_ ?_ <;>
      simp [TripController.tickQueryPublishingInitialPose, TripController.tickPublishingInitialPose, transitionTo_eq,
        TripController.doPublishInitialPose, TripController.emit, state, publication]
  case QueryWaitingLocalisation => exact tickQueryWaitingLocalisation_waits quiet state waits
  case QueryPublishingGoal =>
    refine .enters ?_ ?_ ?_ <;>
      simp [TripController.tickQueryPublishingGoal, transitionTo_eq, TripController.doPublishGoal,
        TripController.emit, state, publication]
  case QueryWaitingRoute => exact tickQueryWaitingRoute_waits quiet state waits
  case WaitingLocalisation =>
    unfold TripController.tickWaitingLocalisation at left ⊢
    split
    · exact republish_waits e.now quiet (by rw [state]; rfl) (by simp [state]) c.initPose
    · rename_i localised
      rw [if_neg localised] at left
      exact left (transitionTo_state _ _ _) rfl
  case Engaging =>
    have stays : (c.tickEngaging e).status.state = .Engaging := ?_
    · exact left stays rfl
    unfold TripController.tickEngaging
    split
    · rcases doEngage_cases e c with held | asked
      · rw [held]
        exact state
      · rw [asked]
        exact state
    · exact state
  case DrivingToPickup | Running => exact tickDriving_waits quiet rfl waits
  all_goals exact waits_quiet quiet rfl rfl rfl rfl

/-- A tick in a wait publishes when the wait is unanswered and a publication is due. -/
theorem tick_publishes (quiet : c.out = []) (ran : c.tick D T e = .ok c') (waits : spacing c.status.state = some ms) :
    publishes c.status.state c'.out = true ↔ Unanswered c ∧ ms ≤ elapsedMs e.now c.lastPublishTime := by
  unfold TripController.tick at ran
  cases state : c.status.state <;> rw [state] at ran waits <;> cases waits <;> simp only [Except.ok.injEq] at ran
  all_goals subst ran
  case QueryWaitingRoute =>
    by_cases set : c.currentRouteState = some .Set
    · simp [TripController.tickQueryWaitingRoute, set, quiet, Unanswered, state]
    · obtain ⟨reason, ticked⟩ := tickQueryWaitingRoute_unset T e.now set
      have unanswered : Unanswered c := by simpa [Unanswered, state] using set
      rw [ticked, and_iff_right unanswered]
      split
      · rw [(failQuery_publishes _ _ _).1]
        exact goalAgain_publishes quiet
      · exact goalAgain_publishes quiet
  all_goals
    have again := republish_publishes e.now quiet (by simp [state])
    rw [state] at again
    have localised : Unanswered c ↔ c.localised = false := by simp [Unanswered, state]
    rw [localised]
  case InitializingInMap =>
    unfold TripController.tickInitializingInMap
    cases lost : c.localised with
    | false => simpa using again c.initPose
    | true => simp [quiet]
  case WaitingLocalisation =>
    unfold TripController.tickWaitingLocalisation
    cases lost : c.localised with
    | false => simpa using again c.initPose
    | true => simp [quiet, TripController.doPublishGoal, TripController.emit, publication]
  case QueryWaitingLocalisation =>
    unfold TripController.tickQueryWaitingLocalisation
    cases lost : c.localised with
    | false =>
      simp only [Bool.not_false, if_true, true_and]
      split
      · rw [(failQuery_publishes _ _ _).1]
        exact again _
      · exact again _
    | true => simp [quiet]

/-! ### Operations -/

/-- What an operation does to a wait that it ends in. -/
theorem apply_waits {op : Operation R κ} (quiet : c.out = []) (ran : op.apply D T e c = .ok c')
    (waits : spacing c'.status.state = some ms) : Waits e.now c op c' := by
  have returned : ∀ {r : TripController R κ × Bool}, r.1 = c → Waits e.now c op (returning r) := by
    rintro r rfl
    exact .stays rfl rfl rfl (by simp [returning, TripController.emit, quiet])
  have left : ∀ {next}, c'.status.state = next → spacing next = none → Waits e.now c op c' := by
    rintro _ rfl none
    cases none.symm.trans waits
  have went : ∀ {now}, c' = returning (c.goToPickup now) → Waits e.now c op c' := by
    rintro now rfl
    rcases goToPickup_cases c now with same | ⟨_, went⟩
    · rw [same]
      exact returned rfl
    · rw [went] at left ⊢
      exact left (transitionTo_state _ _ _) rfl
  have moved : ∀ {r now}, c.move D now = .ok r → c' = returning r → Waits e.now c op c' := by
    rintro r now moved rfl
    rcases move_cases moved with ⟨_, rfl⟩ | ⟨_, _, rfl⟩ | ⟨_, _, m, lane, _, _, _, _, rfl⟩
    · exact returned rfl
    · exact left (transitionTo_state _ _ _) rfl
    · cases lane with
      | none => exact left (transitionTo_state _ _ _) rfl
      | some lane => exact left (transitionTo_state _ _ _) rfl
  cases op with
  | QueryEta start goal cb =>
    obtain ⟨r, queried, rfl⟩ := map_ok ran
    rcases queryEta_cases queried with ⟨_, reason, refused⟩ | ⟨_, _, _, _, started⟩
    · refine .stays ?_ ?_ ?_ ?_ <;> cases cb <;>
        simp [returning, refused, TripController.refuseQuery, TripController.emit, quiet]
    · refine left rfl ?_
      rcases startQueryLeg_cases started with ⟨_, _, _, _, failed⟩ | ⟨_, _, _, _, _, _, _, _, began⟩
      · simp only [returning, TripController.emit, failed]
        exact (failQuery_publishes .Idle _ _).2
      · simp only [returning, TripController.emit, began, transitionTo_state]
        rfl
  | StartTrip =>
    obtain ⟨r, started, rfl⟩ := map_ok ran
    rcases startTrip_cases started with rfl | ⟨_, _, m, lane, _, _, _, _, rfl⟩
    · exact .stays rfl rfl rfl (by simp [returning, TripController.emit, quiet])
    · cases lane with
      | none => exact left (transitionTo_state _ _ _) rfl
      | some lane => exact left (transitionTo_state _ _ _) rfl
  | GoToPickup =>
    cases ran
    exact went rfl
  | Move =>
    obtain ⟨r, asked, rfl⟩ := map_ok ran
    exact moved asked rfl
  | HandleMoveCommand =>
    obtain ⟨r, handled, rfl⟩ := map_ok ran
    rcases handleMoveCommand_cases handled with ⟨_, rfl⟩ | ⟨_, asked⟩ | rfl
    · exact went rfl
    · exact moved asked rfl
    · exact returned rfl
  | Cancel =>
    cases ran
    exact left (transitionTo_state _ _ _) rfl
  | Tick => exact tick_waits quiet ran waits
  | Eta distanceM timeSeconds =>
    cases ran
    unfold TripController.injectEta
    split <;> exact waits_quiet quiet rfl rfl rfl rfl
  | SetCurrentGps _ | LocState _ | RouteState _ | ModeState _ | Route _ =>
    cases ran
    exact waits_quiet quiet rfl rfl rfl rfl

/-! ### Runs -/

section
variable {past : History (World R κ) (Input R κ) (Output R κ)} {w w' : World R κ} {i : Input R κ}
variable {os : List (Output R κ)}

/-- A step that ends in a wait is an operation that does, or leaves the wait alone. -/
theorem step_waits (run : Runs (machine D T) past w) (stepped : step D T w i = .ok (w', os))
    (waits : spacing w'.ctrl.status.state = some ms) :
    (w'.ctrl = w.ctrl ∧ os = []) ∨ (w'.ctrl = w.ctrl ∧ clock i = none) ∨
    ∃ e op c, i = .Handle e op ∧ Waits e.now w.ctrl op c ∧ os = c.out ∧ w'.ctrl = c.settled := by
  cases i with
  | Handle e op =>
    obtain ⟨c, applied, rfl, ended⟩ := handle_cases stepped
    have own : w'.ctrl = c.settled := by
      rw [ended]
      split <;> rfl
    rw [own] at waits
    exact .inr (.inr ⟨e, op, c, rfl, apply_waits (out_nil run) applied waits, rfl, own⟩)
  | ModeResponse seq success =>
    rcases modeResponse_cases stepped with ⟨_, rfl, _⟩ | ⟨_, _, rfl, _⟩ | ⟨_, _, _, rfl⟩ <;>
      exact .inr (.inl ⟨rfl, rfl⟩)
  | EngageResponse seq code => exact .inr (.inl ⟨(engageResponse_cases stepped).2.1, rfl⟩)
  | Acknowledge e seq =>
    rcases acknowledge_cases stepped with ⟨_, rfl, rfl⟩ | ⟨_, rfl, rfl⟩
    · exact .inl ⟨rfl, rfl⟩
    · unfold TripController.onEngaged at waits ⊢
      split at waits
      · split at waits <;> simp [TripController.settled, spacing] at waits
      · rename_i elsewhere
        rw [if_neg elsewhere]
        have silent := out_nil run
        exact .inl ⟨congrArg (fun os => ({ w.ctrl with out := os } : TripController R κ)) silent.symm, silent⟩

/-- In every run the stored time is accounted for in every wait. -/
theorem stamped_run (run : Runs (machine D T) past w) (waits : spacing w.ctrl.status.state = some ms) :
    Stamped (lastPublished w.ctrl.status.state past w) w.ctrl := by
  refine run.invariant (I := fun past w => ∀ ms, spacing w.ctrl.status.state = some ms →
    Stamped (lastPublished w.ctrl.status.state past w) w.ctrl) ?_ ?_ ms waits
  · rintro _ ⟨m, now, _, rfl⟩ ms waits
    refine ⟨fun _ => rfl, fun stored => absurd ?_ stored⟩
    unfold initialWorld TripController.initializeInMap
    split
    · rfl
    · simp [TripController.settled, transitionTo_eq, TripController.doPublishInitialPose, TripController.emit,
        TripController.constructed, TripStatus.initial]
  · intro past w i os w' earlier stamped stepped ms waits
    have kept : w'.ctrl.status.state = w.ctrl.status.state → w'.ctrl.stateEnteredAt = w.ctrl.stateEnteredAt →
        w'.ctrl.lastPublishTime = w.ctrl.lastPublishTime →
        publishedAt w'.ctrl.status.state ⟨w, i, os, w'⟩ = none →
        Stamped (lastPublished w'.ctrl.status.state (⟨w, i, os, w'⟩ :: past) w') w'.ctrl := by
      intro state entered last silent
      rw [state] at waits
      have before := stamped ms waits
      rw [← state] at before
      have same : lastPublished w'.ctrl.status.state (⟨w, i, os, w'⟩ :: past) w' =
          lastPublished w'.ctrl.status.state past w := by
        simp [lastPublished, silent]
      rw [same]
      exact ⟨fun reset => (before.reset (last ▸ reset)).trans entered.symm,
        fun stored => by rw [last] at stored ⊢; exact before.stored stored⟩
    rcases step_waits earlier stepped waits with ⟨same, rfl⟩ | ⟨same, timeless⟩ | ⟨e, op, c, rfl, went, rfl, own⟩
    · rw [same] at kept ⊢
      exact kept rfl rfl rfl rfl
    · rw [same] at kept ⊢
      exact kept rfl rfl rfl (by simp [publishedAt, timeless])
    · have state : w'.ctrl.status.state = c.status.state := congrArg (fun c => c.status.state) own
      cases went with
      | stays stays entered last silent =>
        refine kept (state.trans stays) (own ▸ entered) (own ▸ last) ?_
        simp [publishedAt, state, silent]
      | again stays ticked due last published =>
        have now : lastPublished w'.ctrl.status.state (⟨w, .Handle e op, c.out, w'⟩ :: past) w' = e.now := by
          simp [lastPublished, publishedAt, state, published, clock]
        rw [state, stays] at waits
        have later : w.ctrl.lastPublishTime < e.now := elapsedMs_pos (spacing_pos waits) (due ms waits)
        have positive : 0 ≤ w.ctrl.lastPublishTime := by
          by_cases reset : w.ctrl.lastPublishTime = 0
          · omega
          · exact Int.le_of_lt ((stamped ms waits).stored reset).1
        have stamp : w'.ctrl.lastPublishTime = e.now := own ▸ last
        rw [now]
        exact ⟨fun reset => by omega, fun _ => ⟨by omega, stamp.symm⟩⟩
      | enters entered last published =>
        have now : lastPublished w'.ctrl.status.state (⟨w, .Handle e op, c.out, w'⟩ :: past) w' = e.now := by
          simp [lastPublished, publishedAt, state, published, clock]
        have reset : w'.ctrl.lastPublishTime = 0 := own ▸ last
        have began : w'.ctrl.stateEnteredAt = e.now := (congrArg TripController.stateEnteredAt own).trans entered
        rw [now]
        exact ⟨fun _ => began.symm, fun stored => absurd reset stored⟩

/-- In every run the publications keep their distances exactly when the first
    tick that publishes in each wait comes late enough. -/
theorem paced_iff (run : Runs (machine D T) past w) : Along Paced past ↔ Along (fun _ m => Rested m) past := by
  refine run.along_congr fun past w i os w' earlier stepped => ?_
  refine forall₃_congr fun e ms ticked => ?_
  refine forall_congr' fun waits => ?_
  dsimp only at ticked waits ⊢
  subst ticked
  obtain ⟨c, ran, rfl, _⟩ := handle_cases stepped
  have stamped := stamped_run earlier waits
  rw [tick_publishes (out_nil earlier) ran waits, and_imp]
  refine imp_congr_right fun _ => ?_
  by_cases reset : w.ctrl.lastPublishTime = 0
  · rw [stamped.reset reset, reset]
    simp
  · -- a later retry is timed by the stored time
    rw [(stamped.stored reset).2]
    simp [reset]

end

end

section
attribute [local instance] streetMath

/-- A query on the street whose retries keep their distance. -/
theorem paced_iff_on_street : ∃ past w, Runs (machine street {} : Machine (World ℚ Unit) _ _ _) past w ∧
    w.ctrl.status.state = .QueryWaitingRoute ∧ (Along Paced past ↔ Along (fun _ m => Rested m) past) := by
  obtain ⟨past, w, run, waits⟩ := exists_run (M := machine street {}) (s := initialWorld .fresh 0)
    ((quoteOnStreet (some ())).take 5) fresh_starts
    (fun _ w => decide (w.ctrl.status.state = .QueryWaitingRoute)) (by decide +kernel)
  exact ⟨past, w, run, by simpa using waits, paced_iff run⟩

/-- A tick in the wait for localisation, a tenth of a second after the one that
    published the initial pose: the pose is published again at once. -/
theorem pose_at_once :
    ∃ past w, Runs (machine street {} : Machine (World ℚ Unit) _ _ _) past w ∧ ¬ Along Paced past := by
  obtain ⟨past, w, run, early⟩ := exists_run (M := machine street {}) (s := initialWorld .fresh 0)
    (eachSecond 2 [.QueryEta ⟨35 + 688 / 1000, 139 + 69060 / 100000⟩ ⟨35 + 688 / 1000, 139 + 69190 / 100000⟩ (some ()),
      .Tick] ++ [.Handle { streetAt 3 with now := 3100000000 } .Tick]) fresh_starts
    (fun past _ => match past with
      | m :: older => decide (m.pre.ctrl.status.state = .QueryWaitingLocalisation ∧
          m.input = .Handle { streetAt 3 with now := 3100000000 } .Tick ∧
          publishes .QueryWaitingLocalisation m.outputs = true ∧
          elapsedMs 3100000000 (lastPublished .QueryWaitingLocalisation older m.pre) = 100)
      | [] => false)
    (by decide +kernel)
  refine ⟨past, w, run, fun paced => ?_⟩
  cases past with
  | nil => cases early
  | cons m older =>
    obtain ⟨state, ticked, published, apart⟩ := of_decide_eq_true early
    have late := paced.1 _ 1000 ticked (by rw [state]; rfl) (by rw [state]; exact published)
    rw [state, apart] at late
    omega

end
end AutowareAgent.Pacing
