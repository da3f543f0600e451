import AutowareAgent.Bank

/-!
The callbacks of queries. Each call of `queryEta` passes a callback of its own, so
a callback stands for the call that passed it. It is called at most once: at once
when the query is rejected or fails to begin, not at all when it is cancelled, and
otherwise by the tick that takes the controller out of the query, with success when
that tick ends the trip leg.
-/
namespace AutowareAgent.Callbacks
open AutowareAgent.Machines AutowareAgent.Lanes AutowareAgent.Trips AutowareAgent.Strand AutowareAgent.Quotes
open AutowareAgent.Queries AutowareAgent.Bank

section
variable {R κ : Type}

/-- A query is asked for with the callback. -/
def Asks (cb : κ) : Input R κ → Prop
  | .Handle _ (.QueryEta _ _ (some asked)) => asked = cb
  | _ => False

variable [DecidableEq κ]

instance (cb : κ) : (i : Input R κ) → Decidable (Asks cb i)
  | .Handle _ op => by cases op <;> (try cases ‹Option κ›) <;> unfold Asks <;> infer_instance
  | .ModeResponse _ _ | .EngageResponse _ _ | .Acknowledge _ _ => isFalse id

/-- The results with which the outputs call the callback. -/
def calls (cb : κ) (os : List (Output R κ)) : List (EtaQueryResult R) :=
  os.filterMap fun o => match o with
    | .QueryResult called result => if called = cb then some result else none
    | _ => none

/-- The results with which a history calls the callback. -/
def called (cb : κ) (past : History (World R κ) (Input R κ) (Output R κ)) : List (EtaQueryResult R) :=
  past.flatMap fun m => calls cb m.outputs

/-- The first moment of a window that leaves the controller outside a query,
    after the moments of the window before it. -/
def ending : History (World R κ) (Input R κ) (Output R κ) →
    Option (History (World R κ) (Input R κ) (Output R κ) × Moment (World R κ) (Input R κ) (Output R κ))
  | [] => none
  | n :: window => (ending window).or (if querying n.post.ctrl.status.state then none else some (window, n))

/-- Both legs of the query finished, the trip leg at the moment. -/
def BothFinished (T : TripTimings) (query : History (World R κ) (Input R κ) (Output R κ))
    (n : Moment (World R κ) (Input R κ) (Output R κ)) : Prop :=
  (∃ k ∈ query, Finishes T .Pickup k.input (pipelineOf k.pre.ctrl)) ∧ Finishes T .Trip n.input (pipelineOf n.pre.ctrl)

/-- What a successful call of the callback tells, and where it leaves the controller. -/
structure Succeeds (result : EtaQueryResult R) (next : TripState) : Prop where
  pickup : result.pickupLeg.success = true
  trip : result.tripLeg.success = true
  joined : result.tripLeg.startLaneId = result.pickupLeg.goalLaneId
  ready : next = .RoutesReady

/-- The callback is called once, at the moment that ends the query, with success
    when both legs finished. -/
def AnsweredBy (T : TripTimings) (cb : κ) (window query : History (World R κ) (Input R κ) (Output R κ))
    (n : Moment (World R κ) (Input R κ) (Output R κ)) : Prop :=
  ∃ result, called cb window = [result] ∧ calls cb n.outputs = [result] ∧
    (result.success = true ↔ BothFinished T query n) ∧
    (result.success = true → Succeeds result n.post.ctrl.status.state)

/-- The callback since its query was accepted: not called while the query is
    under way, nor when it is cancelled, and else once where the query ends. -/
def Answered (T : TripTimings) (cb : κ) (window : History (World R κ) (Input R κ) (Output R κ)) : Prop :=
  match ending window with
  | none => called cb window = []
  | some (query, n) => if cancels n then called cb window = [] else AnsweredBy T cb window query n

/-! ### The callback as the pipeline has it -/

/-- The results with which the notices call the callback. -/
def replies (cb : κ) (told : List (Notice R κ)) : List (EtaQueryResult R) :=
  told.filterMap fun n => match n with
    | .Answered called result => if called = cb then some result else none
    | _ => none

theorem calls_notices (cb : κ) (os : List (Output R κ)) : calls cb os = replies cb (notices os) := by
  unfold calls replies notices
  rw [List.filterMap_filterMap]
  congr 1
  funext o
  cases o <;> rfl

@[simp] theorem replies_nil (cb : κ) : replies cb ([] : List (Notice R κ)) = [] := rfl

@[simp] theorem replies_append (cb : κ) (told told' : List (Notice R κ)) :
    replies cb (told ++ told') = replies cb told ++ replies cb told' :=
  List.filterMap_append

@[simp] theorem replies_changed (cb : κ) (prev next : TripState) (told : List (Notice R κ)) :
    replies cb (.Changed prev next :: told) = replies cb told := rfl

@[simp] theorem replies_returned (cb : κ) (ok : Bool) (told : List (Notice R κ)) :
    replies cb (.Returned ok :: told) = replies cb told := rfl

theorem replies_own (cb : κ) (result : EtaQueryResult R) : replies cb (answered (some cb) result) = [result] := by
  simp [replies, answered]

theorem replies_other {cb : κ} {asked : Option κ} (other : asked ≠ some cb) (result : EtaQueryResult R) :
    replies cb (answered asked result) = [] := by
  cases asked with
  | none => rfl
  | some asked =>
    have other : asked ≠ cb := fun same => other (congrArg some same)
    simp [replies, answered, other]

/-- A quoted pickup leg, on which the trip leg goes on. -/
def Joined (p : Pipeline R κ) : Prop :=
  querying p.state = true → p.leg = .Trip →
    p.result.pickupLeg.success = true ∧ p.result.pickupLeg.goalLaneId = p.startId

end

section
variable {R κ : Type} [Zero R] [Add R] [Sub R] [Mul R] [NatCast R] [LT R] [DecidableLT R] [CMath R]
variable {D : MapData R} {T : TripTimings} {i : Input R κ} {p p' : Pipeline R κ} {told : List (Notice R κ)}

theorem joined_progress (joined : Joined p) (moved : Progress D T i p told p') : Joined p' := by
  have closing : Closed p p' → Joined p' := by
    intro closed query
    rw [closed.state] at query
    cases query
  cases moved with
  | quiet _ _ | awaitLocalisation _ _ _ | awaitRoute _ _ _ | awaitEta _ _ _ | refuse _ => exact joined
  | locState s | routeState s | eta d t _ | refuseTrip _ => exact joined
  | cancel closed | failOpen _ closed _ | fail _ closed _ => exact closing closed
  | initialised _ _ | acceptTrip _ _ | endTrip _ _ _ _ _ => exact nofun
  | openQuery _ _ _ => exact nofun
  | publishPose state | localised state _ | publishGoal state | routeSet state _ =>
    exact fun _ => joined (by simp [state, querying])
  | endPickup _ _ _ _ _ _ _ _ _ => exact fun _ _ => ⟨rfl, rfl⟩
  | drive _ _ _ _ _ _ next _ _ _ =>
    intro query
    rw [querying_of_driving next] at query
    cases query

variable [DecidableEq κ] {cb : κ}

/-- A callback that neither waits nor is passed is not called, and does not wait afterwards. -/
theorem silent_progress (gone : p.cb ≠ some cb) (other : ¬ Asks cb i) (moved : Progress D T i p told p') :
    replies cb told = [] ∧ p'.cb ≠ some cb := by
  have closing : Closed p p' → p'.cb ≠ some cb := by
    intro closed
    rw [closed.cb]
    exact nofun
  have passed : ∀ {e : Env R} {start goal asked}, i = .Handle e (.QueryEta start goal asked) → asked ≠ some cb := by
    rintro e start goal _ rfl rfl
    exact other rfl
  cases moved with
  | quiet _ refused => exact ⟨by rcases refused with rfl | rfl <;> rfl, gone⟩
  | awaitLocalisation _ _ _ | awaitRoute _ _ _ | awaitEta _ _ _ => exact ⟨rfl, gone⟩
  | locState _ | routeState _ | eta _ _ _ | refuseTrip _ | acceptTrip _ _ | initialised _ _ => exact ⟨rfl, gone⟩
  | publishPose _ | localised _ _ | publishGoal _ | routeSet _ _ | endPickup _ _ _ _ _ _ _ _ _ => exact ⟨rfl, gone⟩
  | refuse _ => exact ⟨by simp [replies_other (passed rfl)], gone⟩
  | failOpen _ closed _ => exact ⟨by simp [replies_other (passed rfl)], closing closed⟩
  | openQuery _ _ _ => exact ⟨rfl, passed rfl⟩
  | cancel closed => exact ⟨rfl, closing closed⟩
  | fail _ closed _ => exact ⟨replies_other gone _, closing closed⟩
  | endTrip _ _ _ _ _ => exact ⟨by simp [replies_other gone], nofun⟩
  | drive _ _ _ _ _ _ _ _ _ accepted => exact ⟨by rcases accepted with rfl | rfl <;> rfl, gone⟩

/-- What becomes of a callback where it is passed. -/
theorem asked_progress (asks : Asks cb i) (moved : Progress D T i p told p') :
    (∃ result, result.success = false ∧ replies cb told = [result] ∧ p' = p ∧ .Returned true ∉ told) ∨
    (∃ result, result.success = false ∧ replies cb told = [result] ∧ Closed p p' ∧ .Returned false ∉ told) ∨
    (replies cb told = [] ∧ querying p'.state = true ∧ p'.leg = .Pickup ∧ p'.cb = some cb ∧
      .Returned false ∉ told) := by
  have passed : ∀ {e : Env R} {start goal asked}, i = .Handle e (.QueryEta start goal asked) → asked = some cb := by
    rintro e start goal asked rfl
    cases asked with
    | none => exact absurd asks id
    | some asked => exact congrArg some asks
  cases moved with
  | refuse no =>
    obtain rfl := passed rfl
    exact .inl ⟨_, no, by simp [replies_own], rfl, by simp [answered]⟩
  | failOpen _ closed no =>
    obtain rfl := passed rfl
    exact .inr (.inl ⟨_, no, by simp [replies_own], closed, by simp [answered]⟩)
  | openQuery _ _ _ => exact .inr (.inr ⟨rfl, rfl, rfl, passed rfl, by simp⟩)
  | quiet calm _ =>
    cases i with
    | Handle e op => cases op <;> first | exact absurd calm id | exact absurd asks id
    | _ => exact absurd asks id
  | drive _ _ _ _ drives _ _ _ _ _ =>
    cases i with
    | Handle e op => cases op <;> first | exact absurd drives id | exact absurd asks id
    | _ => exact absurd asks id
  | _ => exact absurd asks id

/-- What becomes of a callback that waits: it goes on waiting, is dropped by a
    cancel, or is called. -/
theorem waiting_progress (waits : p.cb = some cb) (query : querying p.state = true) (joined : Joined p)
    (other : ¬ Asks cb i) (moved : Progress D T i p told p') :
    (querying p'.state = true ∧ p'.cb = some cb ∧ replies cb told = [] ∧
      (p'.leg = .Trip → p.leg = .Trip ∨ Finishes T .Pickup i p)) ∨
    (querying p'.state = false ∧ p'.cb ≠ some cb ∧ (∃ e, i = .Handle e .Cancel) ∧ replies cb told = []) ∨
    (querying p'.state = false ∧ p'.cb ≠ some cb ∧ (∀ e, i ≠ .Handle e .Cancel) ∧
      ∃ result, replies cb told = [result] ∧ (result.success = true ↔ Finishes T .Trip i p) ∧
        (result.success = true → Succeeds result p'.state)) := by
  have asked_other : ∀ {e : Env R} {start goal asked}, i = .Handle e (.QueryEta start goal asked) →
      asked ≠ some cb := by
    rintro e start goal _ rfl rfl
    exact other rfl
  have elsewhere : ∀ {s}, p.state = s → querying s = false → False := by
    rintro _ rfl none
    rw [query] at none
    cases none
  cases moved with
  | quiet _ refused => exact .inl ⟨query, waits, by rcases refused with rfl | rfl <;> rfl, .inl⟩
  | awaitLocalisation _ _ _ | awaitRoute _ _ _ | awaitEta _ _ _ => exact .inl ⟨query, waits, rfl, .inl⟩
  | locState _ | routeState _ | eta _ _ _ | refuseTrip _ => exact .inl ⟨query, waits, rfl, .inl⟩
  | refuse _ => exact .inl ⟨query, waits, by simp [replies_other (asked_other rfl)], .inl⟩
  | failOpen idle _ _ | openQuery _ _ idle => exact (elsewhere idle rfl).elim
  | initialised state _ => exact (elsewhere state rfl).elim
  | acceptTrip _ ready => exact (elsewhere ready rfl).elim
  | drive _ _ _ _ _ way _ _ _ _ => exact (elsewhere rfl (querying_of_driving way)).elim
  | publishPose _ | localised _ _ | publishGoal _ | routeSet _ _ => exact .inl ⟨rfl, waits, rfl, .inl⟩
  | endPickup _ _ _ _ state leg measured _ _ =>
    exact .inl ⟨rfl, waits, rfl, fun _ => .inr (finishes_of_measured state leg measured)⟩
  | cancel closed =>
    refine .inr (.inl ⟨by rw [closed.state]; rfl, ?_, ⟨_, rfl⟩, rfl⟩)
    rw [closed.cb]
    exact nofun
  | endTrip d t state leg measured =>
    obtain ⟨pickup, own⟩ := joined query leg
    refine .inr (.inr ⟨rfl, nofun, nofun, _, by rw [waits, replies_append, replies_own]; rfl, ?_, ?_⟩)
    · exact iff_of_true rfl (finishes_of_measured state leg measured)
    · exact fun _ => ⟨pickup, rfl, own.symm, rfl⟩
  | fail fails closed no =>
    refine .inr (.inr ⟨by rw [closed.state]; rfl, ?_, nofun, _, by rw [waits]; exact replies_own _ _, ?_, ?_⟩)
    · rw [closed.cb]
      exact nofun
    · refine iff_of_false (by simp [no]) ?_
      rintro ⟨e, _, state, leg, _⟩
      rcases fails with ⟨other, _⟩ | ⟨other, _⟩ | ⟨_, other, _⟩
      · cases state.symm.trans other
      · cases state.symm.trans other
      · cases leg.symm.trans other
    · intro yes
      rw [no] at yes
      cases yes

end

/-! ### Runs -/

section
variable {R κ : Type} [DecidableEq κ] {cb : κ}

@[simp] theorem called_nil : called cb ([] : History (World R κ) (Input R κ) (Output R κ)) = [] := rfl

@[simp] theorem called_cons (n : Moment (World R κ) (Input R κ) (Output R κ))
    (past : History (World R κ) (Input R κ) (Output R κ)) :
    called cb (n :: past) = calls cb n.outputs ++ called cb past := rfl

@[simp] theorem called_append (newer older : History (World R κ) (Input R κ) (Output R κ)) :
    called cb (newer ++ older) = called cb newer ++ called cb older :=
  List.flatMap_append

omit [DecidableEq κ] in
/-- A window whose first moment leaves the controller outside a query ends there. -/
theorem ending_first {m : Moment (World R κ) (Input R κ) (Output R κ)}
    (outside : querying m.post.ctrl.status.state = false) (newer : History (World R κ) (Input R κ) (Output R κ)) :
    ending (newer ++ [m]) = some ([], m) := by
  induction newer with
  | nil => simp [ending, outside]
  | cons n newer ih => simp [ending, ih]

omit [DecidableEq κ] in
theorem cancels_iff (m : Moment (World R κ) (Input R κ) (Output R κ)) :
    cancels m = true ↔ ∃ e, m.input = .Handle e .Cancel := by
  obtain ⟨_, i, _, _⟩ := m
  cases i with
  | Handle e op => cases op <;> simp [cancels]
  | _ => simp [cancels]

/-- How the query of a callback stands within a window that begins with its acceptance. -/
def Stands (T : TripTimings) (cb : κ) (window : History (World R κ) (Input R κ) (Output R κ)) (w : World R κ) : Prop :=
  match ending window with
  | none => called cb window = [] ∧ querying w.ctrl.status.state = true ∧ w.ctrl.queryCb = some cb ∧
      (w.ctrl.currentLeg = .Trip → ∃ k ∈ window, Finishes T .Pickup k.input (pipelineOf k.pre.ctrl))
  | some (query, n) => w.ctrl.queryCb ≠ some cb ∧
      if cancels n then called cb window = [] else AnsweredBy T cb window query n

theorem answered_of_stands {T : TripTimings} {window : History (World R κ) (Input R κ) (Output R κ)} {w : World R κ}
    (stands : Stands T cb window w) :
    (called cb window).length ≤ 1 ∧ Answered T cb window := by
  unfold Stands at stands
  unfold Answered
  cases ended : ending window with
  | none =>
    rw [ended] at stands
    exact ⟨by simp [stands.1], stands.1⟩
  | some end_ =>
    rw [ended] at stands
    obtain ⟨_, stands⟩ := stands
    refine ⟨?_, stands⟩
    split at stands
    · simp [stands]
    · obtain ⟨result, once, _⟩ := stands
      simp [once]

end

section
variable {R κ : Type} [Zero R] [Add R] [Sub R] [Mul R] [Div R] [NatCast R] [LT R] [DecidableLT R] [CMath R]
variable {D : MapData R} {T : TripTimings} {past : History (World R κ) (Input R κ) (Output R κ)} {w : World R κ}

theorem joined_run (run : Runs (machine D T) past w) : Joined (pipelineOf w.ctrl) := by
  refine run.invariant (I := fun _ w => Joined (pipelineOf w.ctrl)) ?_ ?_
  · rintro _ ⟨m, now, _, rfl⟩ query
    simp only [initialWorld, TripController.initializeInMap] at query
    split at query <;> cases query
  · intro past w i os w' earlier joined stepped
    exact joined_progress joined (step_progress earlier stepped)

variable [DecidableEq κ] {cb : κ}

/-- A callback that nobody passed was not called and does not wait. -/
theorem silent_run (run : Runs (machine D T) past w) (own : ∀ n ∈ past, ¬ Asks cb n.input) :
    called cb past = [] ∧ w.ctrl.queryCb ≠ some cb := by
  refine run.invariant_along (C := fun _ n => ¬ Asks cb n.input)
    (I := fun past w => called cb past = [] ∧ w.ctrl.queryCb ≠ some cb) ?_ ?_ (along_forall.mpr own)
  · rintro _ ⟨m, now, _, rfl⟩
    simp only [initialWorld, TripController.initializeInMap]
    split <;> exact ⟨rfl, (Option.some_ne_none cb).symm⟩
  · rintro past w i os w' earlier ⟨silent, gone⟩ stepped other
    obtain ⟨quiet, still⟩ := silent_progress gone other (step_progress earlier stepped)
    rw [called_cons, calls_notices, quiet, silent]
    exact ⟨rfl, still⟩

/-- A callback that does not wait after a moment is not called after it. -/
theorem silent_since {m : Moment (World R κ) (Input R κ) (Output R κ)}
    {newer older : History (World R κ) (Input R κ) (Output R κ)} (run : Runs (machine D T) (newer ++ m :: older) w)
    (gone : m.post.ctrl.queryCb ≠ some cb) (own : ∀ n ∈ newer, ¬ Asks cb n.input) :
    called cb newer = [] ∧ w.ctrl.queryCb ≠ some cb := by
  refine run.segment (C := fun n => ¬ Asks cb n.input)
    (I := fun newer w => called cb newer = [] ∧ w.ctrl.queryCb ≠ some cb) ⟨rfl, gone⟩ ?_ own
  rintro newer n earlier ⟨silent, gone⟩ stepped other
  obtain ⟨quiet, still⟩ := silent_progress gone other (step_progress earlier stepped)
  rw [called_cons, calls_notices, quiet, silent]
  exact ⟨rfl, still⟩

/-- A callback that does not wait after a moment is called at that moment or never. -/
theorem called_alone {m : Moment (World R κ) (Input R κ) (Output R κ)}
    {newer older : History (World R κ) (Input R κ) (Output R κ)} (run : Runs (machine D T) (newer ++ m :: older) w)
    (gone : m.post.ctrl.queryCb ≠ some cb) (own : ∀ n ∈ newer, ¬ Asks cb n.input) :
    called cb (newer ++ [m]) = calls cb m.outputs := by
  rw [called_append, (silent_since run gone own).1, called_cons]
  simp

theorem stands_step {n : Moment (World R κ) (Input R κ) (Output R κ)}
    {window : History (World R κ) (Input R κ) (Output R κ)} (run : Runs (machine D T) past n.pre)
    (stands : Stands T cb window n.pre) (stepped : step D T n.pre n.input = .ok (n.post, n.outputs))
    (other : ¬ Asks cb n.input) : Stands T cb (n :: window) n.post := by
  have moved := step_progress run stepped
  unfold Stands at stands ⊢
  cases ended : ending window with
  | some end_ =>
    obtain ⟨query, last⟩ := end_
    simp only [ended, ending, Option.some_or] at stands ⊢
    obtain ⟨gone, stands⟩ := stands
    obtain ⟨quiet, still⟩ := silent_progress gone other moved
    have same : called cb (n :: window) = called cb window := by
      rw [called_cons, calls_notices, quiet, List.nil_append]
    unfold AnsweredBy
    rw [same]
    exact ⟨still, stands⟩
  | none =>
    simp only [ended, ending, Option.none_or] at stands ⊢
    obtain ⟨silent, query, waits, finished⟩ := stands
    rcases waiting_progress waits query (joined_run run) other moved with
      ⟨goes, still, quiet, leg⟩ | ⟨ends, gone, ⟨e, cancelled⟩, quiet⟩ | ⟨ends, gone, kept, result, reply, iff, succeeds⟩
    · have goes : querying n.post.ctrl.status.state = true := goes
      rw [if_pos goes]
      refine ⟨?_, goes, still, fun trip => ?_⟩
      · rw [called_cons, calls_notices, quiet, silent]
        rfl
      · rcases leg trip with trip | pickup
        · obtain ⟨k, member, pickup⟩ := finished trip
          exact ⟨k, List.mem_cons_of_mem _ member, pickup⟩
        · exact ⟨n, List.mem_cons_self, pickup⟩
    · have ends : querying n.post.ctrl.status.state = false := ends
      rw [if_neg (by simp [ends])]
      refine ⟨gone, ?_⟩
      rw [if_pos ((cancels_iff n).mpr ⟨e, cancelled⟩), called_cons, calls_notices, quiet, silent]
      rfl
    · have ends : querying n.post.ctrl.status.state = false := ends
      rw [if_neg (by simp [ends])]
      refine ⟨gone, ?_⟩
      have kept : cancels n = false := by
        rw [← Bool.not_eq_true, cancels_iff]
        rintro ⟨e, cancelled⟩
        exact kept e cancelled
      rw [if_neg (by simp [kept])]
      refine ⟨result, ?_, by rw [calls_notices, reply], ?_, succeeds⟩
      · rw [called_cons, calls_notices, reply, silent]
        rfl
      · rw [iff]
        refine ⟨fun trip => ⟨?_, trip⟩, And.right⟩
        obtain ⟨_, _, _, leg, _⟩ := trip
        exact finished leg

omit [Zero R] [Add R] [Sub R] [Mul R] [Div R] [NatCast R] [LT R] [DecidableLT R] [CMath R] in
/-- A query that fails where it was asked for is answered there. -/
theorem answered_at_once {m : Moment (World R κ) (Input R κ) (Output R κ)}
    {newer : History (World R κ) (Input R κ) (Output R κ)} {result : EtaQueryResult R} (asked : Asks cb m.input)
    (outside : querying m.post.ctrl.status.state = false) (no : result.success = false)
    (reply : calls cb m.outputs = [result]) (once : called cb (newer ++ [m]) = [result]) :
    Answered T cb (newer ++ [m]) := by
  have notTick : ∀ e op, m.input = .Handle e op → op ≠ .Tick ∧ op ≠ .Cancel := by
    intro e op same
    rw [same] at asked
    constructor <;> rintro rfl <;> exact asked
  have kept : ¬ cancels m = true := by
    rw [cancels_iff]
    rintro ⟨e, cancelled⟩
    exact (notTick e _ cancelled).2 rfl
  rw [Answered, ending_first outside]
  simp only [if_neg kept]
  refine ⟨result, once, reply, iff_of_false (by simp [no]) ?_, fun yes => ?_⟩
  · rintro ⟨_, e, ticked, _⟩
    exact (notTick e _ ticked).1 rfl
  · rw [no] at yes
    cases yes

/-- The query of an accepted callback stands as its window says, however long the
    window grows. -/
theorem stands_run {m : Moment (World R κ) (Input R κ) (Output R κ)}
    {newer older : History (World R κ) (Input R κ) (Output R κ)} (run : Runs (machine D T) (newer ++ m :: older) w)
    (reply : calls cb m.outputs = []) (query : querying m.post.ctrl.status.state = true)
    (leg : m.post.ctrl.currentLeg = .Pickup) (waits : m.post.ctrl.queryCb = some cb)
    (own : ∀ n ∈ newer, ¬ Asks cb n.input) : Stands T cb (newer ++ [m]) w := by
  refine run.segment (C := fun n => ¬ Asks cb n.input) (I := fun newer w => Stands T cb (newer ++ [m]) w) ?_ ?_ own
  · simp only [Stands, List.nil_append, ending, query, if_true, Option.none_or]
    refine ⟨?_, trivial, waits, fun trip => ?_⟩
    · rw [called_cons, reply]
      rfl
    · cases trip.symm.trans leg
  · intro newer n before stands stepped other
    exact stands_step before stands stepped other

/-- A callback is called at most once in the whole run: at once and without success
    when its query is rejected, and as its query ends when it is accepted. -/
theorem called_once {m : Moment (World R κ) (Input R κ) (Output R κ)}
    {newer older : History (World R κ) (Input R κ) (Output R κ)} (run : Runs (machine D T) (newer ++ m :: older) w)
    (asked : Asks cb m.input) (own : ∀ n ∈ newer ++ older, ¬ Asks cb n.input) :
    (called cb (newer ++ m :: older)).length ≤ 1 ∧ called cb older = [] ∧
      (.Returned false ∈ m.outputs → ∃ result, result.success = false ∧ calls cb m.outputs = [result] ∧
        called cb (newer ++ [m]) = [result]) ∧
      (.Returned true ∈ m.outputs → Answered T cb (newer ++ [m])) := by
  obtain ⟨earlyOwn, lateOwn⟩ : (∀ n ∈ older, ¬ Asks cb n.input) ∧ ∀ n ∈ newer, ¬ Asks cb n.input :=
    ⟨fun n member => own n (List.mem_append_right _ member), fun n member => own n (List.mem_append_left _ member)⟩
  obtain ⟨_, at_call⟩ := run.suffix
  obtain ⟨earlier, stepped, rfl⟩ := at_call.inv
  obtain ⟨silent, gone⟩ := silent_run earlier earlyOwn
  have moved := step_progress earlier stepped
  have whole : called cb (newer ++ m :: older) = called cb (newer ++ [m]) := by simp [silent]
  rw [whole]
  rcases asked_progress asked moved with
    ⟨result, no, reply, same, other⟩ | ⟨result, no, reply, closed, other⟩ | ⟨reply, query, leg, waits, other⟩
  · have gone : m.post.ctrl.queryCb ≠ some cb := by
      rw [show m.post.ctrl.queryCb = _ from congrArg Pipeline.cb same]
      exact gone
    rw [← calls_notices] at reply
    have once : called cb (newer ++ [m]) = [result] := (called_alone run gone lateOwn).trans reply
    refine ⟨by simp [once], silent, fun _ => ⟨result, no, reply, once⟩, fun returned => ?_⟩
    exact absurd (mem_notices returned rfl) other
  · have gone : m.post.ctrl.queryCb ≠ some cb := by
      rw [show m.post.ctrl.queryCb = _ from closed.cb]
      exact nofun
    rw [← calls_notices] at reply
    have once : called cb (newer ++ [m]) = [result] := (called_alone run gone lateOwn).trans reply
    have outside : querying m.post.ctrl.status.state = false := by
      rw [show m.post.ctrl.status.state = _ from closed.state]
      rfl
    exact ⟨by simp [once], silent, fun returned => absurd (mem_notices returned rfl) other,
      fun _ => answered_at_once asked outside no reply once⟩
  · rw [← calls_notices] at reply
    obtain ⟨once, answered⟩ := answered_of_stands (stands_run run reply query leg waits lateOwn)
    exact ⟨once, silent, fun returned => absurd (mem_notices returned rfl) other, fun _ => answered⟩

end

section
attribute [local instance] streetMath

/-- A query on the street whose callback is called with success. -/
theorem called_once_on_street :
    ∃ (newer older : History (World ℚ Unit) (Input ℚ Unit) (Output ℚ Unit)) (m : Moment _ _ _) (w : World ℚ Unit),
      Runs (machine street {}) (newer ++ m :: older) w ∧ w.ctrl.status.state = .RoutesReady ∧
        (called () (newer ++ m :: older)).length ≤ 1 ∧ called () older = [] ∧
        (.Returned false ∈ m.outputs → ∃ result, result.success = false ∧ calls () m.outputs = [result] ∧
          called () (newer ++ [m]) = [result]) ∧
        (.Returned true ∈ m.outputs → Answered {} () (newer ++ [m])) := by
  obtain ⟨newer, m, older, w, run, passes⟩ := exists_run_at (M := machine street {}) (s := initialWorld .fresh 0)
    (quoteOnStreet (some ())) fresh_starts 14
    (fun newer m older w => decide (w.ctrl.status.state = .RoutesReady ∧ Asks () m.input ∧
      ∀ n ∈ newer ++ older, ¬ Asks () n.input)) (by decide +kernel)
  obtain ⟨ready, asked, own⟩ := of_decide_eq_true passes
  exact ⟨newer, older, m, w, run, ready, called_once run asked own⟩

end
end AutowareAgent.Callbacks
