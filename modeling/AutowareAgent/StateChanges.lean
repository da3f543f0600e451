import AutowareAgent.Queries

/-!
The state changes that observers are told. They form one chain up to the present
state exactly when no step leaves a state in which the status is overwritten
before `transitionTo` is called: a cancel, a failed query and the end of a trip
leg.
-/
namespace AutowareAgent.StateChanges
open AutowareAgent.Machines AutowareAgent.Numerals AutowareAgent.Lanes AutowareAgent.Trips AutowareAgent.Strand
open AutowareAgent.Quotes AutowareAgent.Queries

/-- Pairs of states that lead from one state to another, each from where the one
    before it leads. -/
def Linked : TripState → List (TripState × TripState) → TripState → Prop
  | s, [], t => s = t
  | s, (prev, next) :: rest, t => prev = s ∧ Linked next rest t

instance decidableLinked : (s : TripState) → (pairs : List (TripState × TripState)) → (t : TripState) →
    Decidable (Linked s pairs t)
  | s, [], t => inferInstanceAs (Decidable (s = t))
  | s, (prev, next) :: rest, t =>
    have := decidableLinked next rest t
    inferInstanceAs (Decidable (prev = s ∧ Linked next rest t))

theorem linked_append {s t : TripState} {pairs more : List (TripState × TripState)} :
    Linked s (pairs ++ more) t ↔ ∃ u, Linked s pairs u ∧ Linked u more t := by
  induction pairs generalizing s with
  | nil => simp [Linked]
  | cons pair rest ih => simp [Linked, ih, and_assoc]

/-- A chain has one end. -/
theorem linked_unique {s t t' : TripState} {pairs : List (TripState × TripState)} (one : Linked s pairs t)
    (two : Linked s pairs t') : t = t' := by
  induction pairs generalizing s with
  | nil => exact one.symm.trans two
  | cons pair rest ih => exact ih one.2 two.2

section
variable {R κ : Type}

/-- The state changes among the outputs. -/
def changes (os : List (Output R κ)) : List (TripState × TripState) :=
  os.filterMap fun o => match o with
    | .StateChange prev next => some (prev, next)
    | _ => none

/-- The state changes that `initializeInMap` has told when it leaves the state. -/
def opening (s : TripState) : List (TripState × TripState) := if s = .Idle then [] else [(.Idle, s)]

/-- The state in which a history started that has led to the world. -/
def startState (past : History (World R κ) (Input R κ) (Output R κ)) (w : World R κ) : TripState :=
  ((past.getLast?.map Moment.pre).getD w).ctrl.status.state

/-- The state changes that observers have been told, from `initializeInMap` on. -/
def observed (past : History (World R κ) (Input R κ) (Output R κ)) (w : World R κ) : List (TripState × TripState) :=
  opening (startState past w) ++ past.reverse.flatMap fun m => changes m.outputs

/-- What observers have been told by the moment is one chain from `Idle` to the present state. -/
def Follows (past : History (World R κ) (Input R κ) (Output R κ))
    (m : Moment (World R κ) (Input R κ) (Output R κ)) : Prop :=
  Linked .Idle (observed (m :: past) m.post) m.post.ctrl.status.state

instance (past : History (World R κ) (Input R κ) (Output R κ)) (m : Moment (World R κ) (Input R κ) (Output R κ)) :
    Decidable (Follows past m) :=
  inferInstanceAs (Decidable (Linked _ _ _))

end

section
variable {R κ : Type} [Zero R] [Add R] [Sub R] [Mul R] [NatCast R] [LT R] [DecidableLT R] [CMath R]

/-- The status is overwritten while the controller is in another state: by a
    cancel, by a tick that fails the query, or by one that ends its trip leg. -/
def Overwrites (D : MapData R) (T : TripTimings) (i : Input R κ) (p : Pipeline R κ) : Prop :=
  match i with
  | .Handle _ .Cancel => p.state ≠ .Idle
  | .Handle e .Tick => Fails D T e.now p ∨ Finishes T .Trip i p
  | _ => False

/-- No step overwrites the status unseen. -/
def Announced (D : MapData R) (T : TripTimings) (m : Moment (World R κ) (Input R κ) (Output R κ)) : Prop :=
  ¬ Overwrites D T m.input (pipelineOf m.pre.ctrl)

end

/-! ### Steps -/

section
variable {R κ : Type}

/-- The state changes among the notices. -/
def changed (told : List (Notice R κ)) : List (TripState × TripState) :=
  told.filterMap fun n => match n with
    | .Changed prev next => some (prev, next)
    | _ => none

theorem changes_notices (os : List (Output R κ)) : changes os = changed (notices os) := by
  unfold changes changed notices
  rw [List.filterMap_filterMap]
  congr 1
  funext o
  cases o <;> rfl

@[simp] theorem changed_answered (cb : Option κ) (result : EtaQueryResult R) (told : List (Notice R κ)) :
    changed (answered cb result ++ told) = changed told := by
  cases cb <;> rfl

end

section
variable {R κ : Type} [Zero R] [Add R] [Sub R] [Mul R] [NatCast R] [LT R] [DecidableLT R] [CMath R]
variable {D : MapData R} {T : TripTimings} {i : Input R κ} {p p' : Pipeline R κ} {told : List (Notice R κ)}

/-- A tick in a state without a deadline that has passed overwrites nothing. -/
theorem tick_announced {e : Env R} (loc : p.state = .QueryWaitingLocalisation →
      p.loc = some .Initialized ∨ elapsedMs e.now p.enteredAt < T.locTimeoutMs)
    (route : p.state = .QueryWaitingRoute → p.route = some .Set ∨ elapsedMs e.now p.enteredAt < T.routeTimeoutMs)
    (eta : p.state = .QueryReadingEta → p.etaReceived = false ∧ elapsedMs e.now p.enteredAt < T.etaSettleMs ∨
      p.leg = .Pickup ∧ ¬ Unreachable D p) : ¬ Overwrites D T (.Handle e .Tick) p := by
  rintro (fails | ⟨e', same, state, leg, ended⟩)
  · rcases fails with ⟨state, lost, late⟩ | ⟨state, unset, late⟩ | ⟨state, _, ended, unreachable⟩
    · rcases loc state with set | early
      · exact lost set
      · exact absurd late (Int.not_le.mpr early)
    · rcases route state with set | early
      · exact unset set
      · exact absurd late (Int.not_le.mpr early)
    · rcases eta state with ⟨none, early⟩ | ⟨_, reachable⟩
      · rcases ended with received | settled
        · rw [none] at received
          cases received
        · exact absurd settled (Int.not_le.mpr early)
      · exact reachable unreachable
  · cases same
    rcases eta state with ⟨none, early⟩ | ⟨pickup, _⟩
    · rcases ended with received | settled
      · rw [none] at received
        cases received
      · exact absurd settled (Int.not_le.mpr early)
    · cases leg.symm.trans pickup

/-- A tick in a state that has no deadline. -/
theorem tick_announced_other {e : Env R} {s : TripState} (state : p.state = s)
    (other : s ≠ .QueryWaitingLocalisation ∧ s ≠ .QueryWaitingRoute ∧ s ≠ .QueryReadingEta) :
    ¬ Overwrites D T (.Handle e .Tick) p := by
  subst state
  exact tick_announced (fun state => absurd state other.1) (fun state => absurd state other.2.1)
    fun state => absurd state other.2.2

/-- A tick outside of queries. -/
theorem tick_announced_outside {e : Env R} (outside : querying p.state = false) :
    ¬ Overwrites D T (.Handle e .Tick) p := by
  refine tick_announced_other rfl ⟨?_, ?_, ?_⟩ <;> intro state <;> rw [state] at outside <;> cases outside

/-- The changes that a step tells lead from the state before it to the state
    after it exactly when it does not overwrite the status. -/
theorem linked_progress (moved : Progress D T i p told p') :
    Linked p.state (changed told) p'.state ↔ ¬ Overwrites D T i p := by
  cases moved with
  | quiet calm refused =>
    refine iff_of_true (by rcases refused with rfl | rfl <;> rfl) ?_
    cases i with
    | Handle e op =>
      cases op with
      | Tick => exact tick_announced_outside calm.1
      | Cancel => exact absurd calm id
      | _ => exact id
    | _ => exact id
  | locState _ | routeState _ | eta _ _ _ | refuseTrip _ => exact iff_of_true rfl id
  | refuse _ => exact iff_of_true (by rw [changed_answered]; rfl) id
  | failOpen idle closed _ =>
    refine iff_of_true ?_ id
    rw [changed_answered, idle, closed.state]
    rfl
  | openQuery _ _ idle => exact iff_of_true ⟨idle.symm, rfl⟩ id
  | acceptTrip _ ready => exact iff_of_true ⟨ready.symm, rfl⟩ id
  | cancel closed =>
    rw [closed.state]
    exact not_not.symm
  | fail fails closed _ =>
    refine iff_of_false ?_ (not_not.mpr (.inl fails))
    have silent : changed (answered p.cb ‹EtaQueryResult R›) = [] := by cases p.cb <;> rfl
    rw [silent, closed.state]
    intro idle
    have idle : p.state = .Idle := idle
    rcases fails with ⟨state, _⟩ | ⟨state, _⟩ | ⟨state, _⟩ <;> cases idle.symm.trans state
  | endTrip d t state leg measured =>
    refine iff_of_false ?_ (not_not.mpr (.inr (finishes_of_measured state leg measured)))
    rw [changed_answered, state]
    rintro ⟨idle, _⟩
    cases idle
  | initialised state _ | publishPose state | publishGoal state =>
    exact iff_of_true ⟨state.symm, rfl⟩ (tick_announced_other state (by simp))
  | awaitLocalisation state lost early =>
    exact iff_of_true rfl (tick_announced (fun _ => .inr early) (by simp [state]) (by simp [state]))
  | localised state localised =>
    exact iff_of_true ⟨state.symm, rfl⟩ (tick_announced (fun _ => .inl localised) (by simp [state]) (by simp [state]))
  | awaitRoute state unset early =>
    exact iff_of_true rfl (tick_announced (by simp [state]) (fun _ => .inr early) (by simp [state]))
  | routeSet state set =>
    exact iff_of_true ⟨state.symm, rfl⟩ (tick_announced (by simp [state]) (fun _ => .inl set) (by simp [state]))
  | awaitEta state none early =>
    exact iff_of_true rfl (tick_announced (by simp [state]) (by simp [state]) fun _ => .inl ⟨none, early⟩)
  | endPickup d t pickup goal state leg measured goalId connects =>
    refine iff_of_true ⟨state.symm, rfl⟩ (tick_announced (by simp [state]) (by simp [state]) fun _ => .inr ⟨leg, ?_⟩)
    rintro ⟨id, own, none⟩
    have same : pickup = id := by
      have texts := congrArg stoll (goalId.symm.trans own)
      rw [stoll_toString64, stoll_toString64] at texts
      exact Except.ok.inj texts
    rw [← same, connects] at none
    cases none
  | drive now s route goalId drives way next _ _ accepted =>
    refine iff_of_true ?_ ?_
    · rcases accepted with rfl | rfl <;> exact ⟨rfl, rfl⟩
    · cases i with
      | Handle e op =>
        cases op with
        | Tick => exact tick_announced_outside (querying_of_driving way)
        | Cancel => exact absurd drives id
        | _ => exact id
      | _ => exact id

end

/-! ### Runs -/

section
variable {R κ : Type}

theorem linked_opening (s : TripState) : Linked .Idle (opening s) s := by
  unfold opening
  split
  · rename_i idle
    exact idle.symm
  · exact ⟨rfl, rfl⟩

theorem observed_cons (past : History (World R κ) (Input R κ) (Output R κ))
    (m : Moment (World R κ) (Input R κ) (Output R κ)) (w : World R κ) :
    observed (m :: past) w = observed past m.pre ++ changes m.outputs := by
  have start : startState (m :: past) w = startState past m.pre := by
    unfold startState
    cases past with
    | nil => rfl
    | cons n past => rw [List.getLast?_cons_cons]; cases h : (n :: past).getLast? <;> simp_all
  unfold observed
  rw [start, List.reverse_cons, List.flatMap_append, List.append_assoc]
  simp

end

section
variable {R κ : Type} [Zero R] [Add R] [Sub R] [Mul R] [Div R] [NatCast R] [LT R] [DecidableLT R] [CMath R]
variable {D : MapData R} {T : TripTimings} {past : History (World R κ) (Input R κ) (Output R κ)} {w w' : World R κ}

omit [Add R] [Sub R] [Mul R] [Div R] [LT R] [DecidableLT R] [CMath R] in
/-- What `initializeInMap` tells is the opening of every history. -/
theorem initializeInMap_opening (m : LaneletMap R) (now : Int) :
    changes ((TripController.constructed (κ := κ) m).initializeInMap now).out =
      opening (initialWorld (κ := κ) m now).ctrl.status.state := by
  cases start : m.defaultStart with
  | none => simp [initialWorld, TripController.initializeInMap, TripController.constructed, start, TripStatus.initial,
      TripController.settled, changes, opening]
  | some fixedStart => simp [initialWorld, TripController.initializeInMap, TripController.constructed, start,
      TripStatus.initial, TripController.settled, TripController.doPublishInitialPose, TripController.emit, changes,
      opening]

/-- A step is announced when what it tells leads from the state before it to the state after it. -/
theorem announced_iff {i : Input R κ} {os : List (Output R κ)} (run : Runs (machine D T) past w)
    (stepped : step D T w i = .ok (w', os)) :
    Linked w.ctrl.status.state (changes os) w'.ctrl.status.state ↔ Announced D T ⟨w, i, os, w'⟩ := by
  rw [changes_notices]
  exact linked_progress (step_progress run stepped)

/-- As long as every step is announced, observers know the present state. -/
theorem observed_linked (run : Runs (machine D T) past w) (all : Along (fun _ m => Announced D T m) past) :
    Linked .Idle (observed past w) w.ctrl.status.state := by
  refine run.invariant_along (C := fun _ m => Announced D T m)
    (I := fun past w => Linked .Idle (observed past w) w.ctrl.status.state) ?_ ?_ all
  · intro w _
    simpa [observed, startState] using linked_opening w.ctrl.status.state
  · intro past w i os w' earlier linked stepped announced
    rw [observed_cons, linked_append]
    exact ⟨_, linked, (announced_iff earlier stepped).mpr announced⟩

/-- In every run observers are told one chain of changes up to the present state
    exactly when no step overwrites the status unseen. -/
theorem follows_iff (run : Runs (machine D T) past w) :
    Along Follows past ↔ Along (fun _ m => Announced D T m) past := by
  constructor
  · intro all
    induction run with
    | start _ => trivial
    | step earlier stepped ih =>
      have before := ih all.2
      refine ⟨?_, before⟩
      have follows := all.1
      unfold Follows at follows
      rw [observed_cons, linked_append] at follows
      obtain ⟨u, linked, told⟩ := follows
      rw [← linked_unique (observed_linked earlier before) linked] at told
      exact (announced_iff earlier stepped).mp told
  · refine run.along_of_along fun past w i os w' earlier before stepped announced => ?_
    unfold Follows
    rw [observed_cons, linked_append]
    exact ⟨_, observed_linked earlier before, (announced_iff earlier stepped).mpr announced⟩

end

section
attribute [local instance] streetMath

/-- A query on the street up to the wait for its route: observers follow every change. -/
theorem follows_iff_on_street : ∃ past w, Runs (machine street {} : Machine (World ℚ Unit) _ _ _) past w ∧
    w.ctrl.status.state = .QueryWaitingRoute ∧
      (Along Follows past ↔ Along (fun _ m => Announced street {} m) past) := by
  obtain ⟨past, w, run, waits⟩ := exists_run (M := machine street {}) (s := initialWorld .fresh 0)
    ((quoteOnStreet (some ())).take 5) fresh_starts
    (fun _ w => decide (w.ctrl.status.state = .QueryWaitingRoute)) (by decide +kernel)
  exact ⟨past, w, run, by simpa using waits, follows_iff run⟩

/-- A query is cancelled while it waits for its route: nobody is told that the
    controller is idle again. -/
theorem cancel_unseen :
    ∃ past w, Runs (machine street {} : Machine (World ℚ Unit) _ _ _) past w ∧ ¬ Along Follows past := by
  obtain ⟨past, w, run, unseen⟩ := exists_run (M := machine street {}) (s := initialWorld .fresh 0)
    ((quoteOnStreet (some ())).take 5 ++ eachSecond 5 [.Cancel]) fresh_starts
    (fun past _ => match past with
      | m :: older => decide (¬ Follows older m)
      | [] => false)
    (by decide +kernel)
  refine ⟨past, w, run, fun all => ?_⟩
  cases past with
  | nil => cases unseen
  | cons m older => exact of_decide_eq_true unseen all.1

end
end AutowareAgent.StateChanges
