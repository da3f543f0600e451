import AutowareAgent.Callbacks
import Mathlib.Data.Rat.Floor
import Mathlib.Tactic.Linarith

/-!
The end of every query. A wait lasts as many ticks as fit into its timeout, a
leg as many as its three waits and its two publications, and a query has two
legs. So a query that was accepted is over after a number of ticks that no
message can put off.
-/
namespace AutowareAgent.Deadlines
open AutowareAgent.Machines AutowareAgent.Lanes AutowareAgent.Trips AutowareAgent.Strand AutowareAgent.Quotes
open AutowareAgent.Queries AutowareAgent.Callbacks

section
variable {K : Type} [Field K] [LinearOrder K] [IsStrictOrderedRing K] [FloorSemiring K]

/-- The ticks, at least `d` milliseconds apart, that a wait of `limit` milliseconds takes. -/
def waits (d : K) (limit : Int) : Nat := max 1 ⌈(limit : K) / d⌉₊

/-- The ticks that a leg of a query takes. -/
def legTicks (d : K) (T : TripTimings) : Nat :=
  2 + waits d T.locTimeoutMs + waits d T.routeTimeoutMs + waits d T.etaSettleMs

/-- Clock readings in nanoseconds, the latest first, that are at least `d` milliseconds apart. -/
def Apart (d : K) : List Int → Prop :=
  List.IsChain fun later earlier => d * 1000000 ≤ ((later - earlier : Int) : K)

end

section
variable {R κ : Type}

/-- The clock reading of a tick. -/
def tickTime : Input R κ → Option Int
  | .Handle e .Tick => some e.now
  | _ => none

/-- The clock readings of the ticks of a history, the latest first. -/
def tickTimes (past : History (World R κ) (Input R κ) (Output R κ)) : List Int :=
  past.filterMap fun m => tickTime m.input

/-- A `queryEta` that returns true. -/
def AcceptsQuery (m : Moment (World R κ) (Input R κ) (Output R κ)) : Prop :=
  (∃ e start goal cb, m.input = .Handle e (.QueryEta start goal cb)) ∧ .Returned true ∈ m.outputs

/-- A query that has ended left for `Idle` or `RoutesReady`. -/
def Ended (window : History (World R κ) (Input R κ) (Output R κ)) : Prop :=
  ∃ query n, ending window = some (query, n) ∧
    (n.post.ctrl.status.state = .Idle ∨ n.post.ctrl.status.state = .RoutesReady)

end

/-! ### Budgets -/

section
variable {K : Type} [Field K] [LinearOrder K] [IsStrictOrderedRing K] [FloorSemiring K] {d : K} {T : TripTimings}

/-- The ticks that a state of a query may take. -/
def allowance (d : K) (T : TripTimings) : TripState → Nat
  | .QueryWaitingLocalisation => waits d T.locTimeoutMs
  | .QueryWaitingRoute => waits d T.routeTimeoutMs
  | .QueryReadingEta => waits d T.etaSettleMs
  | _ => 1

/-- The ticks that the states of a leg before a state may take. -/
def spentBefore (d : K) (T : TripTimings) : TripState → Nat
  | .QueryWaitingLocalisation => 1
  | .QueryPublishingGoal => 1 + waits d T.locTimeoutMs
  | .QueryWaitingRoute => 2 + waits d T.locTimeoutMs
  | .QueryReadingEta => 2 + waits d T.locTimeoutMs + waits d T.routeTimeoutMs
  | _ => 0

/-- The ticks that the legs before a leg may take. -/
def legBefore (d : K) (T : TripTimings) : QueryLeg → Nat
  | .Pickup => 0
  | .Trip => legTicks d T

/-- The states of a query that have a timeout. -/
def waiting : TripState → Bool
  | .QueryWaitingLocalisation | .QueryWaitingRoute | .QueryReadingEta => true
  | _ => false

omit [IsStrictOrderedRing K] in
theorem waits_pos (d : K) (limit : Int) : 1 ≤ waits d limit := Nat.le_max_left _ _

omit [IsStrictOrderedRing K] in
theorem allowance_pos (d : K) (T : TripTimings) (s : TripState) : 1 ≤ allowance d T s := by
  cases s <;> first | exact waits_pos d _ | exact Nat.le_refl 1

omit [IsStrictOrderedRing K] in
/-- A leg is over once each of its states has taken its ticks. -/
theorem spent_leg (d : K) (T : TripTimings) {s : TripState} (query : querying s = true) :
    spentBefore d T s + allowance d T s ≤ legTicks d T := by
  unfold legTicks
  have loc := waits_pos d T.locTimeoutMs
  have route := waits_pos d T.routeTimeoutMs
  have eta := waits_pos d T.etaSettleMs
  cases s <;> simp only [querying, Bool.false_eq_true] at query <;>
    simp only [spentBefore, allowance] <;> omega

theorem elapsed_lt {now entered limit : Int} (past : 0 ≤ now - entered) (early : elapsedMs now entered < limit) :
    now - entered < limit * 1000000 := by
  unfold elapsedMs at early
  rw [Int.tdiv_eq_ediv_of_nonneg past] at early
  omega

/-- A wait that is not over has not taken all its ticks. -/
theorem early_allowed (pos : 0 < d) {now entered limit : Int} {k : Nat}
    (spent : ((k + 1 : Nat) : K) * (d * 1000000) ≤ ((now - entered : Int) : K))
    (early : elapsedMs now entered < limit) : k + 1 < waits d limit := by
  have nonneg : (0 : K) ≤ ((k + 1 : Nat) : K) * (d * 1000000) := by positivity
  have past : 0 ≤ now - entered := by
    have := nonneg.trans spent
    exact_mod_cast this
  have short : ((now - entered : Int) : K) < (limit : K) * 1000000 := by
    have := elapsed_lt past early
    exact_mod_cast this
  have under : ((k + 1 : Nat) : K) * d < (limit : K) := by
    have whole := spent.trans_lt short
    rw [← mul_assoc] at whole
    exact lt_of_mul_lt_mul_right whole (by norm_num)
  refine lt_of_lt_of_le ?_ (Nat.le_max_right 1 _)
  rw [Nat.lt_ceil, lt_div_iff₀ pos]
  exact under

end

/-! ### Steps -/

section
variable {K : Type} [Field K] [LinearOrder K] [IsStrictOrderedRing K] [FloorSemiring K] {d : K} {T : TripTimings}
variable {R κ : Type} {p p' : Pipeline R κ} {times : List Int} {now : Int}

/-- The ticks since the query was accepted stay within what its legs and states
    may take, and within what fits since the present state was entered. -/
def OnTime (d : K) (T : TripTimings) (times : List Int) (p : Pipeline R κ) : Prop :=
  ∃ k, k < allowance d T p.state ∧ times.length ≤ legBefore d T p.leg + spentBefore d T p.state + k ∧
    (waiting p.state = true → ∃ last rest, times = last :: rest ∧
      (k : K) * (d * 1000000) ≤ ((last - p.enteredAt : Int) : K))

omit [IsStrictOrderedRing K] in
theorem onTime_bound (onTime : OnTime d T times p) (query : querying p.state = true) :
    times.length < 2 * legTicks d T := by
  obtain ⟨k, allowed, spent, _⟩ := onTime
  have leg := spent_leg d T query
  have before : legBefore d T p.leg ≤ legTicks d T := by
    cases p.leg
    · exact Nat.zero_le _
    · exact Nat.le_refl _
  omega

omit [IsStrictOrderedRing K] in
/-- A tick that goes on to a state before which all that is behind may be spent. -/
theorem onTime_next (onTime : OnTime d T times p)
    (next : legBefore d T p.leg + spentBefore d T p.state + allowance d T p.state ≤
      legBefore d T p'.leg + spentBefore d T p'.state) (entered : p'.enteredAt = now) :
    OnTime d T (now :: times) p' := by
  obtain ⟨k, allowed, spent, _⟩ := onTime
  refine ⟨0, allowance_pos d T p'.state, ?_, fun _ => ⟨now, times, rfl, ?_⟩⟩
  · simp only [List.length_cons]
    omega
  · simp [entered]

/-- A tick that goes on waiting. -/
theorem onTime_stay (pos : 0 < d) (onTime : OnTime d T times p) (apart : Apart d (now :: times))
    (state : waiting p.state = true) {limit : Int} (own : allowance d T p.state = waits d limit)
    (early : elapsedMs now p.enteredAt < limit) : OnTime d T (now :: times) p := by
  obtain ⟨k, _, spent, since⟩ := onTime
  obtain ⟨last, rest, rfl, fits⟩ := since state
  have gap : d * 1000000 ≤ ((now - last : Int) : K) := (List.isChain_cons_cons.mp apart).1
  have more : ((k + 1 : Nat) : K) * (d * 1000000) ≤ ((now - p.enteredAt : Int) : K) := by
    push_cast at gap fits ⊢
    linarith
  refine ⟨k + 1, ?_, ?_, fun _ => ⟨now, last :: rest, rfl, more⟩⟩
  · rw [own]
    exact early_allowed pos more early
  · simp only [List.length_cons] at spent ⊢
    omega

end

section
variable {K : Type} [Field K] [LinearOrder K] [IsStrictOrderedRing K] [FloorSemiring K] {d : K}
variable {R κ : Type} [Zero R] [Add R] [Sub R] [Mul R] [NatCast R] [LT R] [DecidableLT R] [CMath R]
variable {D : MapData R} {T : TripTimings} {i : Input R κ} {p p' : Pipeline R κ} {told : List (Notice R κ)}
variable {times : List Int}

/-- A step within a query keeps it on time, or ends it. -/
theorem onTime_progress (pos : 0 < d) (onTime : OnTime d T times p) (query : querying p.state = true)
    (apart : ∀ e, i = .Handle e .Tick → Apart d (e.now :: times)) (moved : Progress D T i p told p') :
    querying p'.state = true ∧ OnTime d T ((tickTime i).toList ++ times) p' ∨
      querying p'.state = false ∧ (p'.state = .Idle ∨ p'.state = .RoutesReady) := by
  have elsewhere : ∀ {s}, p.state = s → querying s = false → False := by
    rintro _ rfl none
    rw [query] at none
    cases none
  have closing : Closed p p' → querying p'.state = false ∧ (p'.state = .Idle ∨ p'.state = .RoutesReady) := by
    intro closed
    rw [closed.state]
    exact ⟨rfl, .inl rfl⟩
  cases moved with
  | quiet calm _ =>
    have none : tickTime i = none := by
      unfold tickTime
      split
      · exact (elsewhere rfl calm.1).elim
      · rfl
    rw [none]
    exact .inl ⟨query, onTime⟩
  | locState _ | routeState _ | eta _ _ _ | refuse _ | refuseTrip _ => exact .inl ⟨query, onTime⟩
  | cancel closed | fail _ closed _ | failOpen _ closed _ => exact .inr (closing closed)
  | openQuery _ _ idle => exact (elsewhere idle rfl).elim
  | initialised state _ => exact (elsewhere state rfl).elim
  | acceptTrip _ ready => exact (elsewhere ready rfl).elim
  | drive _ _ _ _ _ way _ _ _ _ => exact (elsewhere rfl (querying_of_driving way)).elim
  | endTrip _ _ _ _ _ => exact .inr ⟨rfl, .inr rfl⟩
  | awaitLocalisation state _ early | awaitRoute state _ early | awaitEta state _ early =>
    exact .inl ⟨query, onTime_stay pos onTime (apart _ rfl) (by rw [state]; rfl) (by rw [state]; rfl) early⟩
  | publishPose state | localised state _ | publishGoal state | routeSet state _ =>
    refine .inl ⟨rfl, onTime_next onTime ?_ rfl⟩
    simp only [state, spentBefore, allowance]
    omega
  | endPickup d t pickup goal state leg _ _ _ =>
    refine .inl ⟨rfl, onTime_next onTime ?_ rfl⟩
    simp only [state, leg, legBefore, legTicks, spentBefore, allowance]
    omega

/-- An accepted query begins its pickup leg, or has failed already. -/
theorem acceptsQuery_progress {e : Env R} {start goal : GPSCoordinate R} {cb : Option κ}
    (moved : Progress D T (.Handle e (.QueryEta start goal cb)) p told p') (accepted : .Returned true ∈ told) :
    p'.state = .Idle ∨ p'.state = .QueryPublishingInitialPose ∧ p'.leg = .Pickup := by
  cases moved with
  | quiet calm _ => exact absurd calm id
  | drive _ _ _ _ drives _ _ _ _ _ => exact absurd drives id
  | refuse _ => cases cb <;> simp [answered] at accepted
  | failOpen _ closed _ => exact .inl closed.state
  | openQuery _ _ _ => exact .inr ⟨rfl, rfl⟩

end

/-! ### Runs -/

section
variable {K : Type} [Field K] [LinearOrder K] [IsStrictOrderedRing K] [FloorSemiring K] {d : K}
variable {R κ : Type} [Zero R] [Add R] [Sub R] [Mul R] [Div R] [NatCast R] [LT R] [DecidableLT R] [CMath R]
variable {D : MapData R} {T : TripTimings} {past : History (World R κ) (Input R κ) (Output R κ)} {w : World R κ}
variable {m : Moment (World R κ) (Input R κ) (Output R κ)}
variable {newer older : History (World R κ) (Input R κ) (Output R κ)}

/-- The query is under way and on time, or has ended. -/
def Timed (d : K) (T : TripTimings) (times : List Int) (window : History (World R κ) (Input R κ) (Output R κ))
    (w : World R κ) : Prop :=
  ending window = none ∧ querying w.ctrl.status.state = true ∧ OnTime d T times (pipelineOf w.ctrl) ∨ Ended window

omit [IsStrictOrderedRing K] in
theorem timed_accepted (run : Runs (machine D T) (m :: older) w) (accepted : AcceptsQuery m) :
    Timed d T [] [m] m.post := by
  obtain ⟨earlier, stepped, _⟩ := run.inv
  obtain ⟨⟨e, start, goal, cb, asked⟩, returned⟩ := accepted
  rw [asked] at stepped
  rcases acceptsQuery_progress (step_progress earlier stepped) (mem_notices returned rfl) with idle | ⟨state, leg⟩
  · have idle : m.post.ctrl.status.state = .Idle := idle
    exact .inr ⟨[], m, ending_first (by rw [idle]; rfl) [], .inl idle⟩
  · have state : m.post.ctrl.status.state = .QueryPublishingInitialPose := state
    have query : querying m.post.ctrl.status.state = true := by rw [state]; rfl
    refine .inl ⟨by simp [ending, query], query, 0, allowance_pos d T _, Nat.zero_le _, fun waits => ?_⟩
    rw [show (pipelineOf m.post.ctrl).state = _ from state] at waits
    cases waits

/-- A query is on time as long as it is under way. -/
theorem timed_run (pos : 0 < d) (run : Runs (machine D T) (newer ++ m :: older) w) (accepted : AcceptsQuery m)
    (apart : Apart d (tickTimes newer)) : Timed d T (tickTimes newer) (newer ++ [m]) w := by
  obtain ⟨_, at_call⟩ := run.suffix
  refine run.segment (C := fun _ => True)
    (I := fun newer w => Apart d (tickTimes newer) → Timed d T (tickTimes newer) (newer ++ [m]) w) ?_ ?_
    (fun _ _ => trivial) apart
  · exact fun _ => timed_accepted at_call accepted
  · intro newer n earlier timed stepped _ apart
    have times : tickTimes (n :: newer) = (tickTime n.input).toList ++ tickTimes newer := by
      unfold tickTimes
      cases ticked : tickTime n.input <;> simp [ticked]
    rw [times] at apart ⊢
    have before : Apart d (tickTimes newer) := by
      cases ticked : tickTime n.input with
      | none => simpa [ticked] using apart
      | some now =>
        rw [ticked] at apart
        exact apart.of_cons
    rcases timed before with ⟨open_, query, onTime⟩ | ⟨query, last, ended, left⟩
    · have next : ∀ e, n.input = .Handle e .Tick → Apart d (e.now :: tickTimes newer) := by
        intro e ticked
        simpa [ticked, tickTime] using apart
      rcases onTime_progress pos onTime query next (step_progress earlier stepped) with
        ⟨goes, onTime⟩ | ⟨ends, left⟩
      · have goes : querying n.post.ctrl.status.state = true := goes
        exact .inl ⟨by simp [ending, open_, goes], goes, onTime⟩
      · have ends : querying n.post.ctrl.status.state = false := ends
        exact .inr ⟨newer ++ [m], n, by simp [ending, open_, ends], left⟩
    · exact .inr ⟨query, last, by simp [ending, ended], left⟩

/-- Whatever is delivered in between, an accepted query has left for `Idle` or
    `RoutesReady` once the ticks of two legs have been handled since. -/
theorem query_ends (pos : 0 < d) (run : Runs (machine D T) (newer ++ m :: older) w) (accepted : AcceptsQuery m)
    (apart : Apart d (tickTimes newer))
    (enough : 2 * (2 + waits d T.locTimeoutMs + waits d T.routeTimeoutMs + waits d T.etaSettleMs) ≤
      (tickTimes newer).length) : Ended (newer ++ [m]) := by
  rcases timed_run pos run accepted apart with ⟨_, query, onTime⟩ | ended
  · exact absurd (onTime_bound onTime query) (Nat.not_lt.mpr enough)
  · exact ended

end

section
attribute [local instance] streetMath

/-- A query on the street that hears nothing, with timeouts of a second each:
    ten ticks a second apart end it. -/
theorem query_ends_on_street :
    ∃ (newer older : History (World ℚ Unit) (Input ℚ Unit) (Output ℚ Unit)) (m : Moment _ _ _) (w : World ℚ Unit),
      Runs (machine street ⟨1000, 1000, 1000⟩) (newer ++ m :: older) w ∧ (tickTimes newer).length = 10 ∧
        Ended (newer ++ [m]) := by
  obtain ⟨newer, m, older, w, run, passes⟩ := exists_run_at (M := machine street ⟨1000, 1000, 1000⟩)
    (s := initialWorld .fresh 0)
    (eachSecond 0 ([.LocState .Initialized,
      .QueryEta ⟨35 + 688 / 1000, 139 + 69060 / 100000⟩ ⟨35 + 688 / 1000, 139 + 69190 / 100000⟩ (some ())] ++
      List.replicate 10 .Tick)) fresh_starts 10
    (fun newer m _ _ => decide (m.input = .Handle (streetAt 1) (.QueryEta ⟨35 + 688 / 1000, 139 + 69060 / 100000⟩
        ⟨35 + 688 / 1000, 139 + 69190 / 100000⟩ (some ())) ∧ .Returned true ∈ m.outputs ∧
      tickTimes newer = (List.range 10).map fun second => (11 - (second : Int)) * 1000000000)) (by decide +kernel)
  obtain ⟨asked, returned, times⟩ := of_decide_eq_true passes
  refine ⟨newer, older, m, w, run, by simp [times], ?_⟩
  refine query_ends (d := (1000 : ℚ)) (by norm_num) run ⟨⟨_, _, _, _, asked⟩, returned⟩ ?_ ?_
  · rw [times]
    norm_num [Apart, List.range_succ]
  · rw [times]
    norm_num [waits]

end
end AutowareAgent.Deadlines
