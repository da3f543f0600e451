import AutowareAgent.Queries

/-!
Localisation after a new initial pose. The stored route state is cleared where a
wait for it begins, the stored localisation state never is. So a leg proceeds on
an `INITIALIZED` of its own exactly when none was stored as its initial pose was
published, or another localisation state arrived in the wait.
-/
namespace AutowareAgent.Localisation
open AutowareAgent.Machines AutowareAgent.Lanes AutowareAgent.Trips AutowareAgent.Strand AutowareAgent.Quotes
open AutowareAgent.Queries

/-- The wait for localisation that follows the publication of an initial pose. -/
def waitAfter : TripState → Option TripState
  | .QueryPublishingInitialPose => some .QueryWaitingLocalisation
  | .PublishingInitialPose => some .WaitingLocalisation
  | _ => none

/-- The state that follows a wait for localisation. -/
def afterWait : TripState → Option TripState
  | .QueryWaitingLocalisation => some .QueryPublishingGoal
  | .WaitingLocalisation => some .Engaging
  | _ => none

theorem waitAfter_none {s : TripState} (waits : (afterWait s).isSome = true) : waitAfter s = none := by
  cases s <;> first | rfl | cases waits

section
variable {R κ : Type}

def isTick : Input R κ → Bool
  | .Handle _ .Tick => true
  | _ => false

theorem tick_of_isTick {i : Input R κ} (ticked : isTick i = true) : ∃ e, i = .Handle e .Tick := by
  unfold isTick at ticked
  split at ticked
  · exact ⟨_, rfl⟩
  · cases ticked

/-- A tick publishes the initial pose of a leg first. -/
def poses (m : Moment (World R κ) (Input R κ) (Output R κ)) : Bool :=
  isTick m.input && (waitAfter m.pre.ctrl.status.state).isSome

/-- The localisation state that is delivered. -/
def located (m : Moment (World R κ) (Input R κ) (Output R κ)) : Option LocState :=
  match m.input with
  | .Handle _ (.LocState state) => some state
  | _ => none

/-- The latest initial pose of a leg began the wait in the state, and nothing has left it since. -/
structure Posed (past : History (World R κ) (Input R κ) (Output R κ)) (state : TripState)
    (pose : Moment (World R κ) (Input R κ) (Output R κ)) : Prop where
  latest : past.find? poses = some pose
  published : ∃ p, .InitialPose p ∈ pose.outputs
  began : waitAfter pose.pre.ctrl.status.state = some state ∧ pose.post.ctrl.status.state = state
  waits : ∀ n ∈ since poses past, n.post.ctrl.status.state = state

/-- A tick that leaves a wait for localisation acts on an `INITIALIZED` that was
    delivered after the initial pose of the leg was first published. -/
def Anew (past : History (World R κ) (Input R κ) (Output R κ))
    (m : Moment (World R κ) (Input R κ) (Output R κ)) : Prop :=
  isTick m.input = true → ∀ next, afterWait m.pre.ctrl.status.state = some next → m.post.ctrl.status.state = next →
    ∃ pose, Posed past m.pre.ctrl.status.state pose ∧ ∃ n ∈ since poses past, located n = some .Initialized

/-- A tick in a wait for localisation finds an `INITIALIZED` that was stored
    before the latest initial pose was published, and nothing newer. -/
def Old (past : History (World R κ) (Input R κ) (Output R κ))
    (m : Moment (World R κ) (Input R κ) (Output R κ)) : Prop :=
  isTick m.input = true ∧ (afterWait m.pre.ctrl.status.state).isSome = true ∧
    (∃ pose, past.find? poses = some pose ∧ pose.pre.ctrl.currentLocState = some .Initialized) ∧
    ∀ n ∈ since poses past, located n = none

/-- The localisation state that was delivered last. -/
def lastLocated (past : History (World R κ) (Input R κ) (Output R κ)) : Option LocState := past.findSome? located

/-- What the stored localisation state is worth in a wait. -/
def Waited (past : History (World R κ) (Input R κ) (Output R κ)) (state : TripState) (loc : Option LocState) : Prop :=
  (afterWait state).isSome = true →
    ∃ pose, Posed past state pose ∧ loc = (lastLocated (since poses past)).or pose.pre.ctrl.currentLocState

/-! ### Steps -/

section
variable {past : History (World R κ) (Input R κ) (Output R κ)} {m : Moment (World R κ) (Input R κ) (Output R κ)}
variable {p p' : Pipeline R κ}

theorem waited_outside {state : TripState} {loc : Option LocState} (outside : afterWait state = none) :
    Waited past state loc := by
  intro waits
  rw [outside] at waits
  cases waits

/-- A tick that publishes an initial pose begins the wait with what is stored. -/
theorem waited_posed {state : TripState} (ticked : isTick m.input = true)
    (began : waitAfter m.pre.ctrl.status.state = some state ∧ m.post.ctrl.status.state = state)
    (published : ∃ p, .InitialPose p ∈ m.outputs) : Waited (m :: past) state m.pre.ctrl.currentLocState := by
  intro _
  have first : poses m = true := by simp [poses, ticked, began.1]
  refine ⟨m, ⟨by simp [first], published, began, ?_⟩, ?_⟩
  · rw [since_cons_kind first]
    exact List.forall_mem_nil _
  · rw [since_cons_kind first]
    rfl

/-- A step within a wait, which may deliver another localisation state. -/
theorem waited_stay {state : TripState} {loc loc' : Option LocState} (waited : Waited past state loc)
    (pre : m.pre.ctrl.status.state = state) (post : m.post.ctrl.status.state = state)
    (heard : loc' = (located m).or loc) : Waited (m :: past) state loc' := by
  intro waits
  obtain ⟨pose, posed, stored⟩ := waited waits
  have other : poses m = false := by
    simp [poses, pre, waitAfter_none waits]
  refine ⟨pose, ⟨by simpa [other] using posed.latest, posed.published, posed.began, ?_⟩, ?_⟩
  · rw [since_cons_other other]
    exact List.forall_mem_cons.mpr ⟨post, posed.waits⟩
  · rw [since_cons_other other, heard, stored]
    simp only [lastLocated, List.findSome?_cons]
    cases located m <;> rfl

end

end

section
variable {R κ : Type} [Zero R] [Add R] [Sub R] [Mul R] [NatCast R] [LT R] [DecidableLT R] [CMath R]
variable {D : MapData R} {T : TripTimings} {past : History (World R κ) (Input R κ) (Output R κ)}
variable {m : Moment (World R κ) (Input R κ) (Output R κ)} {i : Input R κ} {p p' : Pipeline R κ}
variable {told : List (Notice R κ)}

/-- Every step keeps the stored localisation state accounted for. -/
theorem waited_step (waited : Waited past p.state p.loc) (moved : Progress D T i p told p') (input : m.input = i)
    (pre : pipelineOf m.pre.ctrl = p) (post : pipelineOf m.post.ctrl = p')
    (published : poses m = true → ∃ pose, .InitialPose pose ∈ m.outputs) : Waited (m :: past) p'.state p'.loc := by
  have before : m.pre.ctrl.status.state = p.state := congrArg Pipeline.state pre
  have after : m.post.ctrl.status.state = p'.state := congrArg Pipeline.state post
  have stored : m.pre.ctrl.currentLocState = p.loc := congrArg Pipeline.loc pre
  have begin_ : ∀ {e : Env R} {s}, i = .Handle e .Tick → waitAfter p.state = some s → p'.state = s →
      Waited (m :: past) s p.loc := by
    rintro e s rfl began rfl
    have ticked : isTick m.input = true := by rw [input]; rfl
    rw [← stored]
    exact waited_posed ticked ⟨by rw [before]; exact began, after⟩ (published (by simp [poses, ticked, before, began]))
  have stay : p'.state = p.state → p'.loc = p.loc → (∀ e s, i ≠ .Handle e (.LocState s)) →
      Waited (m :: past) p.state p.loc := by
    intro state loc other
    have silent : located m = none := by
      unfold located
      split
      · rename_i e s heard
        exact absurd (input.symm.trans heard) (other e s)
      · rfl
    refine waited_stay waited before (after.trans state) ?_
    rw [silent, Option.none_or]
  cases moved with
  | quiet calm _ =>
    refine stay rfl rfl ?_
    rintro e s rfl
    exact calm
  | routeState _ | eta _ _ _ | refuse _ | refuseTrip _ => exact stay rfl rfl nofun
  | awaitLocalisation _ _ _ | awaitRoute _ _ _ | awaitEta _ _ _ => exact stay rfl rfl nofun
  | locState s =>
    refine waited_stay waited before after ?_
    simp [located, input]
  | cancel closed | failOpen _ closed _ | fail _ closed _ =>
    rw [closed.state]
    exact waited_outside rfl
  | initialised _ _ | openQuery _ _ _ | localised _ _ | publishGoal _ | routeSet _ _ => exact waited_outside rfl
  | endPickup _ _ _ _ _ _ _ _ _ | endTrip _ _ _ _ _ | acceptTrip _ _ => exact waited_outside rfl
  | publishPose state => exact begin_ rfl (by rw [state]; rfl) rfl
  | drive now s route goalId _ _ next pose _ _ =>
    by_cases waits : s = .WaitingLocalisation
    · obtain ⟨e, ticked, state⟩ := pose waits
      subst waits
      exact begin_ ticked (by rw [state]; rfl) rfl
    · refine waited_outside ?_
      cases s <;> first | rfl | exact absurd rfl waits | cases next

/-- A tick leaves a wait for localisation exactly when `INITIALIZED` is stored. -/
theorem leaves_iff {e : Env R} {next : TripState} (moved : Progress D T (.Handle e .Tick) p told p')
    (waits : afterWait p.state = some next) : p'.state = next ↔ p.loc = some .Initialized := by
  have elsewhere : ∀ {s}, p.state = s → afterWait s = none → False := by
    rintro _ rfl none
    rw [waits] at none
    cases none
  have moves_on : p.state ≠ next := by
    intro same
    rw [same] at waits
    cases next <;> cases waits
  cases moved with
  | quiet calm _ =>
    refine iff_of_false moves_on fun localised => ?_
    cases state : p.state with
    | QueryWaitingLocalisation => have calm := calm.1; rw [state] at calm; cases calm
    | WaitingLocalisation => exact calm.2 state localised
    | _ => rw [state] at waits; cases waits
  | initialised state _ | publishPose state | publishGoal state => exact (elsewhere state rfl).elim
  | awaitRoute state _ _ | routeSet state _ | awaitEta state _ _ => exact (elsewhere state rfl).elim
  | endPickup _ _ _ _ state _ _ _ _ | endTrip _ _ state _ _ => exact (elsewhere state rfl).elim
  | awaitLocalisation _ lost _ => exact iff_of_false moves_on lost
  | localised state localised =>
    rw [state] at waits
    cases waits
    exact iff_of_true rfl localised
  | fail fails closed _ =>
    rw [closed.state]
    rcases fails with ⟨state, lost, _⟩ | ⟨state, _⟩ | ⟨state, _⟩
    · refine iff_of_false ?_ lost
      rw [state] at waits
      cases waits
      simp
    · exact (elsewhere state rfl).elim
    · exact (elsewhere state rfl).elim
  | drive now s route goalId _ way _ _ goal _ =>
    cases state : p.state with
    | WaitingLocalisation =>
      obtain ⟨engages, localised⟩ := goal state
      rw [state] at waits
      cases waits
      exact iff_of_true engages localised
    | QueryWaitingLocalisation => rw [state] at way; cases way
    | _ => rw [state] at waits; cases waits

end

/-! ### Runs -/

section
variable {R κ : Type} [Zero R] [Add R] [Sub R] [Mul R] [Div R] [NatCast R] [LT R] [DecidableLT R] [CMath R]
variable {D : MapData R} {T : TripTimings} {past : History (World R κ) (Input R κ) (Output R κ)} {w w' : World R κ}
variable {i : Input R κ} {os : List (Output R κ)}

theorem publishes_pose (stepped : step D T w i = .ok (w', os))
    (first : poses (⟨w, i, os, w'⟩ : Moment (World R κ) (Input R κ) (Output R κ)) = true) :
    ∃ pose, .InitialPose pose ∈ os := by
  obtain ⟨ticked, begins⟩ := Bool.and_eq_true_iff.mp first
  dsimp only at ticked begins
  obtain ⟨e, rfl⟩ := tick_of_isTick ticked
  obtain ⟨c, ran, rfl, _⟩ := handle_cases stepped
  change w.ctrl.tick D T e = .ok c at ran
  unfold waitAfter at begins
  split at begins
  · rename_i state
    simp only [TripController.tick, state, Except.ok.injEq] at ran
    subst ran
    refine ⟨w.ctrl.status.startPose, ?_⟩
    simp [TripController.tickQueryPublishingInitialPose, TripController.doPublishInitialPose, TripController.emit]
  · rename_i state
    simp only [TripController.tick, state, Except.ok.injEq] at ran
    subst ran
    refine ⟨w.ctrl.initPose, ?_⟩
    simp [TripController.tickPublishingInitialPose, TripController.doPublishInitialPose, TripController.emit]
  · cases begins

theorem waited_run (run : Runs (machine D T) past w) : Waited past w.ctrl.status.state w.ctrl.currentLocState := by
  refine run.invariant (I := fun past w => Waited past w.ctrl.status.state w.ctrl.currentLocState) ?_ ?_
  · rintro _ ⟨m, now, _, rfl⟩
    refine waited_outside ?_
    simp only [initialWorld, TripController.initializeInMap]
    split <;> rfl
  · intro past w i os w' earlier waited stepped
    exact waited_step waited (step_progress earlier stepped) rfl rfl rfl (publishes_pose stepped)

/-- In every run each leg proceeds on a localisation of its own exactly when no
    tick in a wait finds an old `INITIALIZED` and nothing newer. -/
theorem localised_anew_iff (run : Runs (machine D T) past w) :
    Along Anew past ↔ Along (fun past m => ¬ Old past m) past := by
  refine run.along_congr fun past w i os w' earlier stepped => ?_
  have waited := waited_run earlier
  have moved := step_progress earlier stepped
  constructor
  · rintro anew ⟨ticked, waits, ⟨pose, latest, stored⟩, silent⟩
    obtain ⟨pose', posed, loc⟩ := waited waits
    obtain rfl : pose = pose' := Option.some.inj (latest.symm.trans posed.latest)
    have none : lastLocated (since poses past) = none := List.findSome?_eq_none_iff.mpr silent
    rw [none, Option.none_or, stored] at loc
    obtain ⟨next, after⟩ := Option.isSome_iff_exists.mp waits
    obtain ⟨e, rfl⟩ := tick_of_isTick ticked
    have left : w'.ctrl.status.state = next := (leaves_iff moved after).mpr loc
    obtain ⟨_, _, n, member, heard⟩ := anew ticked next after left
    cases (silent n member).symm.trans heard
  · intro fresh ticked next after left
    have waits : (afterWait w.ctrl.status.state).isSome = true := Option.isSome_iff_exists.mpr ⟨next, after⟩
    obtain ⟨pose, posed, loc⟩ := waited waits
    obtain ⟨e, rfl⟩ := tick_of_isTick ticked
    have localised : w.ctrl.currentLocState = some .Initialized := (leaves_iff moved after).mp left
    rw [localised] at loc
    refine ⟨pose, posed, ?_⟩
    cases last : lastLocated (since poses past) with
    | some state =>
      rw [last] at loc
      obtain rfl : LocState.Initialized = state := Option.some.inj loc
      exact List.exists_of_findSome?_eq_some last
    | none =>
      rw [last, Option.none_or] at loc
      exact absurd ⟨ticked, waits, ⟨pose, posed.latest, loc.symm⟩, List.findSome?_eq_none_iff.mp last⟩ fresh

end

section
attribute [local instance] streetMath

/-- A query on the street whose localisation state arrives after its initial pose. -/
theorem localised_anew_on_street : ∃ past w, Runs (machine street {} : Machine (World ℚ Unit) _ _ _) past w ∧
    w.ctrl.status.state = .QueryPublishingGoal ∧ (Along Anew past ↔ Along (fun past m => ¬ Old past m) past) := by
  obtain ⟨past, w, run, localised⟩ := exists_run (M := machine street {}) (s := initialWorld .fresh 0)
    (eachSecond 0 [.QueryEta ⟨35 + 688 / 1000, 139 + 69060 / 100000⟩ ⟨35 + 688 / 1000, 139 + 69190 / 100000⟩
      (some ()), .Tick, .LocState .Initialized, .Tick]) fresh_starts
    (fun _ w => decide (w.ctrl.status.state = .QueryPublishingGoal)) (by decide +kernel)
  exact ⟨past, w, run, by simpa using localised, localised_anew_iff run⟩

/-- The `INITIALIZED` that answered the first pose on the street lets the query go
    on right after it has published its own. -/
theorem localised_by_old_pose :
    ∃ past w, Runs (machine street {} : Machine (World ℚ Unit) _ _ _) past w ∧ ¬ Along Anew past := by
  obtain ⟨past, w, run, old⟩ := exists_run (M := machine street {}) (s := initialWorld .fresh 0)
    ((quoteOnStreet (some ())).take 4) fresh_starts
    (fun past w => match past with
      | m :: older => isTick m.input && decide (m.pre.ctrl.status.state = .QueryWaitingLocalisation ∧
          m.post.ctrl.status.state = .QueryPublishingGoal ∧
          ∀ n ∈ since poses older, located n ≠ some .Initialized)
      | [] => false)
    (by decide +kernel)
  refine ⟨past, w, run, fun all => ?_⟩
  cases past with
  | nil => cases old
  | cons m older =>
    obtain ⟨ticked, found⟩ := Bool.and_eq_true_iff.mp old
    obtain ⟨waits, left, none⟩ := of_decide_eq_true found
    obtain ⟨_, _, n, member, heard⟩ := all.1 ticked .QueryPublishingGoal (by rw [waits]; rfl) left
    exact none n member heard

end
end AutowareAgent.Localisation
