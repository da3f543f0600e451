import AutowareAgent.Parts
import AutowareAgent.StreamLife
import AutowareAgent.Tickers

/-!
How the agent stops. `stopAutowareApp` shuts the bridges down one after the other and
the stream client after them, and each `shutdown` joins a thread before the next one
is called. A bridge whose cancel misses its timer therefore holds up all that come
after it: the stream client is never asked to stop and goes on serving the gateway.
-/
namespace AutowareAgent.Shutdown
open AutowareAgent.Machines AutowareAgent.Parts
open AutowareAgent.EventStream (Attempt)

/-- The bridges. -/
inductive Name
  | Planning
  | Perception
  | Trip
  | Cluster
  | Location
  deriving DecidableEq, Repr

/-- Where `stopAutowareApp` is: before its call, before a bridge's `cancel`, before
    `reset` of its guard, in `join` of its thread, before `shutdown_` of the stream
    client, in `join` of its thread, after its return. -/
inductive Stage
  | NotCalled
  | Cancels (name : Name)
  | Resets (name : Name)
  | Joins (name : Name)
  | Shuts
  | JoinsClient
  | Returned
  deriving DecidableEq, Repr

/-- The bridges, the stream client, and where the stopping thread is. -/
structure App (E : Type) where
  bridge : Name → Tickers.Bridge
  client : StreamLife.Client E
  stage : Stage

/-- What happens next: a bridge or the client does something, the stopping thread goes on. -/
inductive Turn (E : Type)
  | Bridge (name : Name) (turn : Tickers.Turn)
  | Client (turn : StreamLife.Turn E)
  | Stop
  deriving DecidableEq, Repr

/-- What others see: a tick of a bridge with its frame, an event given to `Write`. -/
inductive Effect (E : Type)
  | Published (name : Name)
  | Tried (attempt : Attempt E)
  deriving DecidableEq, Repr

/-- What comes after a bridge. -/
def Name.next : Name → Stage
  | .Planning => .Cancels .Perception
  | .Perception => .Cancels .Trip
  | .Trip => .Cancels .Cluster
  | .Cluster => .Cancels .Location
  | .Location => .Shuts

section
variable {E : Type}

/-- A bridge does something. -/
def App.works (s : App E) (name : Name) (turn : Tickers.Turn) : Except Empty (App E × List (Effect E)) :=
  (Tickers.step (s.bridge name) turn).map fun r =>
    ({ s with bridge := Function.update s.bridge name r.1 }, r.2.map fun _ => .Published name)

/-- The client does something. -/
def App.streams (s : App E) (turn : StreamLife.Turn E) : Except Empty (App E × List (Effect E)) :=
  (StreamLife.step s.client turn).map fun r => ({ s with client := r.1 }, r.2.map .Tried)

/-- Only the stopping thread shuts anything down. -/
def step (s : App E) : Turn E → Except Empty (App E × List (Effect E))
  | .Bridge _ .Cancel | .Bridge _ .Reset | .Client .Shutdown => .ok (s, [])
  | .Bridge name turn => s.works name turn
  | .Client turn => s.streams turn
  | .Stop =>
    match s.stage with
    | .NotCalled => .ok ({ s with stage := .Cancels .Planning }, [])
    | .Cancels name => App.works { s with stage := .Resets name } name .Cancel
    | .Resets name => App.works { s with stage := .Joins name } name .Reset
    | .Joins name => .ok (if (s.bridge name).ended then { s with stage := name.next } else s, [])
    | .Shuts => App.streams { s with stage := .JoinsClient } .Shutdown
    | .JoinsClient => .ok (if s.client.ended then { s with stage := .Returned } else s, [])
    | .Returned => .ok (s, [])

/-- The agent's machine, once `startAutowareApp` has returned. -/
def machine (E : Type) : Machine (App E) (Turn E) (Effect E) Empty where
  Start s := (∀ name, s.bridge name = ⟨[.Schedule], false, true, false⟩) ∧
    s.client = ⟨⟨[], none⟩, false, false, false, false⟩ ∧ s.stage = .NotCalled
  step := step

/-- The agent's runs. -/
abbrev Past (E : Type) := History (App E) (Turn E) (Effect E)

/-- A bridge's timer is cancelled while it waits. -/
def Hits (name : Name) (m : Moment (App E) (Turn E) (Effect E)) : Prop :=
  m.input = .Stop ∧ m.pre.stage = .Cancels name ∧ (m.pre.bridge name).armed = true

/-- The stopping thread waits for a bridge, or will do so next. -/
def App.WaitsFor (s : App E) (name : Name) : Prop := s.stage = .Resets name ∨ s.stage = .Joins name

/-- The gateway leaves the stream open: `Read` ends, and `Write` fails, only for a
    stream that the client has cancelled. -/
def LeavesOpen (m : Moment (App E) (Turn E) (Effect E)) : Prop :=
  m.input = .Client (.Live (.ReadReturns false)) ∨ m.input = .Client (.Live (.WriteReturns false)) →
    m.pre.client.cancelled = true

/-- While the gateway leaves the stream open, the run may go on to the end of `stopAutowareApp`. -/
def CanReturn (past : Past E) : Prop :=
  ∃ newer t, Runs (machine E) (newer ++ past) t ∧ (∀ m ∈ newer, LeavesOpen m) ∧ t.stage = .Returned

/-! ### The parts -/

/-- What a turn is to a bridge. -/
def bridgeInput (name : Name) (s : App E) : Turn E → Option Tickers.Turn
  | .Bridge _ .Cancel | .Bridge _ .Reset | .Client _ => none
  | .Bridge other turn => if other = name then some turn else none
  | .Stop =>
    match s.stage with
    | .Cancels other => if other = name then some .Cancel else none
    | .Resets other => if other = name then some .Reset else none
    | _ => none

/-- What a turn is to the client. -/
def clientInput (s : App E) : Turn E → Option (StreamLife.Turn E)
  | .Client .Shutdown | .Bridge _ _ => none
  | .Client turn => some turn
  | .Stop => if s.stage = .Shuts then some .Shutdown else none

/-- What a bridge puts out. -/
def frameOf (name : Name) : Effect E → Option Tickers.Effect
  | .Published other => if other = name then some .Frame else none
  | .Tried _ => none

/-- What the client puts out. -/
def attemptOf : Effect E → Option (Attempt E)
  | .Published _ => none
  | .Tried attempt => some attempt

theorem frames_own (name : Name) (frames : List Tickers.Effect) :
    (frames.map fun _ => (.Published name : Effect E)).filterMap (frameOf name) = frames := by
  induction frames with
  | nil => rfl
  | cons frame rest ih =>
    cases frame
    simpa [frameOf] using ih

theorem attempts_own (as : List (Attempt E)) : (as.map Effect.Tried).filterMap attemptOf = as := by
  rw [List.filterMap_map]
  exact List.filterMap_some

/-- Where the stopping thread is after a turn. -/
def App.after (s : App E) : Turn E → Stage
  | .Stop =>
    match s.stage with
    | .NotCalled => .Cancels .Planning
    | .Cancels name => .Resets name
    | .Resets name => .Joins name
    | .Joins name => if (s.bridge name).ended then name.next else .Joins name
    | .Shuts => .JoinsClient
    | .JoinsClient => if s.client.ended then .Returned else .JoinsClient
    | .Returned => .Returned
  | _ => s.stage

/-- A step is one of a bridge, one of the client, or of neither. -/
inductive Moved (s : App E) (i : Turn E) : App E → List (Effect E) → Prop
  | bridge {name : Name} {turn : Tickers.Turn} {b : Tickers.Bridge} {frames : List Tickers.Effect}
      (given : ∀ other, bridgeInput other s i = if name = other then some turn else none)
      (unasked : clientInput s i = none) (stepped : Tickers.step (s.bridge name) turn = .ok (b, frames)) :
      Moved s i { s with bridge := Function.update s.bridge name b, stage := s.after i }
        (frames.map fun _ => .Published name)
  | client {turn : StreamLife.Turn E} {c : StreamLife.Client E} {as : List (Attempt E)}
      (given : clientInput s i = some turn) (unasked : ∀ name, bridgeInput name s i = none)
      (stepped : StreamLife.step s.client turn = .ok (c, as)) :
      Moved s i { s with client := c, stage := s.after i } (as.map .Tried)
  | neither (unasked : ∀ name, bridgeInput name s i = none) (unasked' : clientInput s i = none) :
      Moved s i { s with stage := s.after i } []

theorem works_inv {s s' : App E} {name : Name} {turn : Tickers.Turn} {os : List (Effect E)}
    (worked : s.works name turn = .ok (s', os)) : ∃ b frames, Tickers.step (s.bridge name) turn = .ok (b, frames) ∧
      s' = { s with bridge := Function.update s.bridge name b } ∧ os = frames.map fun _ => .Published name := by
  cases stepped : Tickers.step (s.bridge name) turn with
  | error e => cases e
  | ok r =>
    rw [App.works, stepped] at worked
    cases worked
    exact ⟨r.1, r.2, rfl, rfl, rfl⟩

theorem streams_inv {s s' : App E} {turn : StreamLife.Turn E} {os : List (Effect E)}
    (streamed : s.streams turn = .ok (s', os)) : ∃ c as, StreamLife.step s.client turn = .ok (c, as) ∧
      s' = { s with client := c } ∧ os = as.map .Tried := by
  cases stepped : StreamLife.step s.client turn with
  | error e => cases e
  | ok r =>
    rw [App.streams, stepped] at streamed
    cases streamed
    exact ⟨r.1, r.2, rfl, rfl, rfl⟩

theorem step_cases {s s' : App E} {i : Turn E} {os : List (Effect E)} (stepped : step s i = .ok (s', os)) :
    Moved s i s' os := by
  obtain ⟨bridge, client, stage⟩ := s
  cases i with
  | Bridge name turn =>
    have works : (App.works ⟨bridge, client, stage⟩ name turn) = .ok (s', os) →
        (∀ other, bridgeInput other ⟨bridge, client, stage⟩ (.Bridge name turn) =
          if name = other then some turn else none) → Moved ⟨bridge, client, stage⟩ (.Bridge name turn) s' os := by
      intro worked given
      obtain ⟨b, frames, took, rfl, rfl⟩ := works_inv worked
      exact .bridge given rfl took
    cases turn with
    | Cancel | Reset =>
      cases stepped
      exact .neither (fun _ => rfl) rfl
    | _ => exact works stepped fun _ => rfl
  | Client turn =>
    cases turn with
    | Shutdown =>
      cases stepped
      exact .neither (fun _ => rfl) rfl
    | _ =>
      obtain ⟨c, as, took, rfl, rfl⟩ := streams_inv stepped
      exact .client rfl (fun _ => rfl) took
  | Stop =>
    cases stage with
    | NotCalled | Returned =>
      cases stepped
      exact .neither (fun _ => rfl) rfl
    | Cancels name | Resets name =>
      obtain ⟨b, frames, took, rfl, rfl⟩ := works_inv stepped
      exact .bridge (fun _ => rfl) rfl took
    | Joins name =>
      cases stepped
      have after : (if (bridge name).ended = true then ⟨bridge, client, name.next⟩
          else ⟨bridge, client, .Joins name⟩ : App E) =
            ⟨bridge, client, App.after ⟨bridge, client, .Joins name⟩ .Stop⟩ := by
        simp only [App.after]
        split <;> rfl
      rw [after]
      exact .neither (fun _ => rfl) rfl
    | Shuts =>
      obtain ⟨c, as, took, rfl, rfl⟩ := streams_inv stepped
      exact .client rfl (fun _ => rfl) took
    | JoinsClient =>
      cases stepped
      have after : (if client.ended = true then ⟨bridge, client, .Returned⟩ else ⟨bridge, client, .JoinsClient⟩ :
          App E) = ⟨bridge, client, App.after ⟨bridge, client, .JoinsClient⟩ .Stop⟩ := by
        simp only [App.after]
        split <;> rfl
      rw [after]
      exact .neither (fun _ => rfl) rfl

theorem stage_step {s s' : App E} {i : Turn E} {os : List (Effect E)} (stepped : step s i = .ok (s', os)) :
    s'.stage = s.after i := by
  cases step_cases stepped <;> rfl

/-- A bridge within the agent. -/
def bridgePart (E : Type) (name : Name) : Part (machine E) Tickers.machine where
  get s := s.bridge name
  input := bridgeInput name
  output := frameOf name
  starts first := first.1 name
  moves := by
    intro s i s' os j stepped asked
    cases step_cases stepped with
    | @bridge other turn b frames given _ took =>
      rw [given name] at asked
      split at asked
      · rename_i same
        cases asked
        subst same
        rw [frames_own]
        have own : Function.update s.bridge other b other = b := Function.update_self _ _ _
        exact took.trans (congrArg (fun b => Except.ok (b, frames)) own.symm)
      · cases asked
    | client _ unasked _ | neither unasked _ =>
      rw [unasked name] at asked
      cases asked
  rests := by
    intro s i s' os stepped asked
    cases step_cases stepped with
    | @bridge other turn b frames given _ took =>
      rw [given name] at asked
      split at asked
      · cases asked
      · rename_i different
        exact Function.update_of_ne (Ne.symm different) _ _
    | client _ _ _ | neither _ _ => rfl

/-- The stream client within the agent. -/
def clientPart (E : Type) : Part (machine E) (StreamLife.machine E) where
  get := App.client
  input := clientInput
  output := attemptOf
  starts first := first.2.1
  moves := by
    intro s i s' os j stepped asked
    cases step_cases stepped with
    | client given _ took =>
      rw [given] at asked
      cases asked
      rw [attempts_own]
      exact took
    | bridge _ unasked _ | neither _ unasked =>
      rw [unasked] at asked
      cases asked
  rests := by
    intro s i s' os stepped asked
    cases step_cases stepped with
    | client given _ _ =>
      rw [given] at asked
      cases asked
    | bridge _ _ _ | neither _ _ => rfl

/-- What a bridge does without its `shutdown`. -/
def bridgeOwn (E : Type) (name : Name) : Own (bridgePart E name) where
  set s b := { s with bridge := Function.update s.bridge name b }
  turn := .Bridge name
  May _ turn := turn ≠ .Cancel ∧ turn ≠ .Reset
  get_set s b := by simp [bridgePart]
  set_get s := by simp [bridgePart]
  set_set s b b' := by simp
  takes := by
    intro s turn b frames may took
    have worked : App.works s name turn = .ok ({ s with bridge := Function.update s.bridge name b },
        frames.map fun _ => .Published name) := by
      rw [App.works, show Tickers.step (s.bridge name) turn = .ok (b, frames) from took]
      rfl
    cases turn with
    | Cancel => exact absurd rfl may.1
    | Reset => exact absurd rfl may.2
    | _ => exact ⟨_, worked⟩

/-- What the client does without another `shutdown`. -/
def clientOwn (E : Type) : Own (clientPart E) where
  set s c := { s with client := c }
  turn := .Client
  May c turn := turn = .Shutdown → c.shutdown = true
  get_set _ _ := rfl
  set_get _ := rfl
  set_set _ _ _ := rfl
  takes := by
    intro s turn c as may took
    have streamed : App.streams s turn = .ok ({ s with client := c }, as.map .Tried) := by
      rw [App.streams, show StreamLife.step s.client turn = .ok (c, as) from took]
      rfl
    cases turn with
    | Shutdown =>
      obtain ⟨bridge, client, stage⟩ := s
      have down : client.shutdown = true := may rfl
      cases took
      refine ⟨[], ?_⟩
      rw [← down]
      rfl
    | _ => exact ⟨_, streamed⟩

/-! ### Where the stopping thread has come -/

def Name.place : Name → Nat
  | .Planning => 0
  | .Perception => 1
  | .Trip => 2
  | .Cluster => 3
  | .Location => 4

/-- How far the stopping thread has come. -/
def Stage.rank : Stage → Nat
  | .NotCalled => 0
  | .Cancels name => 3 * name.place + 1
  | .Resets name => 3 * name.place + 2
  | .Joins name => 3 * name.place + 3
  | .Shuts => 16
  | .JoinsClient => 17
  | .Returned => 18

theorem next_rank (name : Name) : name.next.rank = 3 * name.place + 4 := by
  cases name <;> rfl

/-- The stopping thread stays where it is, or goes on. -/
inductive Passed (s : App E) : Turn E → Stage → Prop
  | stays {i : Turn E} {stage : Stage} (same : stage = s.stage) : Passed s i stage
  | begins (here : s.stage = .NotCalled) : Passed s .Stop (.Cancels .Planning)
  | cancels {name : Name} (here : s.stage = .Cancels name) : Passed s .Stop (.Resets name)
  | resets {name : Name} (here : s.stage = .Resets name) : Passed s .Stop (.Joins name)
  | joins {name : Name} {stage : Stage} (here : s.stage = .Joins name) (ended : (s.bridge name).ended = true)
      (next : stage = name.next) : Passed s .Stop stage
  | shuts (here : s.stage = .Shuts) : Passed s .Stop .JoinsClient
  | returns (here : s.stage = .JoinsClient) (ended : s.client.ended = true) : Passed s .Stop .Returned

theorem after_cases (s : App E) (i : Turn E) : Passed s i (s.after i) := by
  obtain ⟨bridge, client, stage⟩ := s
  cases i with
  | Stop =>
    cases stage with
    | NotCalled => exact .begins rfl
    | Cancels name => exact .cancels rfl
    | Resets name => exact .resets rfl
    | Joins name =>
      simp only [App.after]
      split
      · rename_i ended
        exact .joins rfl ended rfl
      · exact .stays rfl
    | Shuts => exact .shuts rfl
    | JoinsClient =>
      simp only [App.after]
      split
      · rename_i ended
        exact .returns rfl ended
      · exact .stays rfl
    | Returned => exact .stays rfl
  | _ => exact .stays rfl

theorem after_rank (s : App E) (i : Turn E) : s.stage.rank ≤ (s.after i).rank := by
  have passed := after_cases s i
  generalize s.after i = stage at passed
  cases passed with
  | stays same => exact Nat.le_of_eq (congrArg Stage.rank same.symm)
  | joins here _ next =>
    rw [next, here, next_rank]
    exact Nat.le_succ _
  | begins here | cancels here | resets here | shuts here | returns here _ =>
    rw [here]
    simp [Stage.rank, Name.place]

variable {past : Past E} {s : App E}

/-- The stopping thread does not come back to what it has left. -/
theorem rank_run (run : Runs (machine E) past s) : ∀ m ∈ past, (m.pre.after m.input).rank ≤ s.stage.rank := by
  refine run.invariant (I := fun past s => ∀ m ∈ past, (m.pre.after m.input).rank ≤ s.stage.rank) ?_ ?_
  · intro s _ m member
    cases member
  · intro past s i os s' _ ih stepped m member
    rw [stage_step stepped]
    rcases List.mem_cons.mp member with rfl | old
    · exact Nat.le_refl _
    · exact Nat.le_trans (ih m old) (after_rank s i)

/-! ### The bridges -/

/-- Only the stopping thread cancels a timer and gives up a guard. -/
theorem bridgeInput_cancel {name : Name} {i : Turn E} :
    bridgeInput name s i = some .Cancel ↔ i = .Stop ∧ s.stage = .Cancels name := by
  obtain ⟨bridge, client, stage⟩ := s
  cases i with
  | Bridge other turn => cases turn <;> simp [bridgeInput]
  | Client turn => simp [bridgeInput]
  | Stop => cases stage <;> simp [bridgeInput]

theorem hits_iff {name : Name} :
    (∃ n ∈ (bridgePart E name).past past, Tickers.Hits n) ↔ ∃ m ∈ past, Hits name m := by
  constructor
  · rintro ⟨n, member, cancels, armed⟩
    obtain ⟨m, earlier, seen⟩ := List.mem_filterMap.mp member
    obtain ⟨j, given, rfl⟩ := Option.map_eq_some_iff.mp seen
    cases cancels
    obtain ⟨stops, stage⟩ := bridgeInput_cancel.mp given
    exact ⟨m, earlier, stops, stage, armed⟩
  · rintro ⟨m, earlier, stops, stage, armed⟩
    have given : (bridgePart E name).input m.pre m.input = some .Cancel := bridgeInput_cancel.mpr ⟨stops, stage⟩
    refine ⟨_, List.mem_filterMap.mpr ⟨m, earlier, by rw [Part.moment, given]; rfl⟩, rfl, armed⟩

theorem pulse_zero_iff (run : Runs (machine E) past s) (name : Name) :
    Tickers.pulse (s.bridge name) = 0 ↔ ∃ m ∈ past, Hits name m :=
  (Tickers.pulse_zero_iff (Part.runs (P := bridgePart E name) run)).trans hits_iff

theorem pulse_cases (run : Runs (machine E) past s) (name : Name) :
    Tickers.pulse (s.bridge name) = 0 ∨ Tickers.pulse (s.bridge name) = 1 := by
  have counted := Tickers.pulse_run (Part.runs (P := bridgePart E name) run)
  have own : (bridgePart E name).get s = s.bridge name := rfl
  rw [own] at counted
  omega

theorem ended_pulse (run : Runs (machine E) past s) {name : Name} (ended : (s.bridge name).ended = true) :
    Tickers.pulse (s.bridge name) = 0 :=
  Tickers.ended_pulse (Part.runs (P := bridgePart E name) run) ended

/-- A bridge ticks until its cancel. -/
theorem early_pulse (run : Runs (machine E) past s) {name : Name} (early : s.stage.rank ≤ 3 * name.place + 1) :
    Tickers.pulse (s.bridge name) = 1 := by
  refine (pulse_cases run name).resolve_left fun zero => ?_
  obtain ⟨m, member, stops, stage, _⟩ := (pulse_zero_iff run name).mp zero
  have later := rank_run run m member
  have gone : m.pre.after m.input = .Resets name := by
    rw [stops]
    simp only [App.after, stage]
  have rank : (Stage.Resets name).rank = 3 * name.place + 2 := rfl
  rw [gone, rank] at later
  omega

/-- A bridge whose thread is joined has given up its guard. -/
theorem joins_unguarded (run : Runs (machine E) past s) :
    ∀ name, s.stage = .Joins name → (s.bridge name).guarded = false := by
  refine run.invariant (I := fun _ s => ∀ name, s.stage = .Joins name → (s.bridge name).guarded = false) ?_ ?_
  · intro s first name stage
    rw [first.2.2] at stage
    cases stage
  · intro past s i os s' _ ih stepped name stage
    have before : bridgeInput name s i = some .Reset ∨ s.stage = .Joins name := by
      have passed := after_cases s i
      rw [← stage_step stepped, stage] at passed
      cases passed with
      | stays same => exact .inr same.symm
      | resets here => exact .inl (by simp [bridgeInput, here])
      | @joins other _ _ _ next => cases other <;> cases next
    cases given : bridgeInput name s i with
    | none =>
      have same : s'.bridge name = s.bridge name := (bridgePart E name).rests stepped given
      rw [same]
      exact ih name (before.resolve_left (by rw [given]; nofun))
    | some turn =>
      refine Tickers.unguarded_step ((bridgePart E name).moves stepped given) ?_
      refine before.imp (fun resets => ?_) (ih name)
      rw [given] at resets
      exact Option.some.inj resets

/-! ### The client -/

theorem clientInput_shutdown {i : Turn E} : clientInput s i = some .Shutdown ↔ i = .Stop ∧ s.stage = .Shuts := by
  cases i with
  | Bridge other turn => simp [clientInput]
  | Client turn => cases turn <;> simp [clientInput]
  | Stop => simp [clientInput]

theorem clientInput_live {i : Turn E} {turn : EventStream.Turn E} :
    clientInput s i = some (.Live turn) ↔ i = .Client (.Live turn) := by
  cases i with
  | Bridge other turn' => simp [clientInput]
  | Client turn' => cases turn' <;> simp [clientInput]
  | Stop => simp [clientInput]

/-- The client is asked to stop by the stopping thread only, and ends for good. -/
theorem client_flags {s' : App E} {i : Turn E} {os : List (Effect E)} (stepped : step s i = .ok (s', os)) :
    (¬ (i = .Stop ∧ s.stage = .Shuts) → s'.client.shutdown = s.client.shutdown) ∧
      (s.client.ended = true → s'.client.ended = true) := by
  rw [← clientInput_shutdown]
  cases given : clientInput s i with
  | none =>
    have same : s'.client = s.client := (clientPart E).rests stepped given
    rw [same]
    exact ⟨fun _ => rfl, id⟩
  | some turn =>
    obtain ⟨flag, ended⟩ := StreamLife.flags_step ((clientPart E).moves stepped given)
    exact ⟨fun other => flag fun own => other (congrArg some own), ended⟩

/-- What the stopping thread has done to the client. -/
structure InStep (s : App E) : Prop where
  before : s.stage.rank ≤ 16 → s.client.shutdown = false
  asked : s.stage = .JoinsClient → s.client.shutdown = true
  ended : s.stage = .Returned → s.client.ended = true

theorem inStep_run (run : Runs (machine E) past s) : InStep s := by
  refine run.invariant (I := fun _ s => InStep s) ?_ ?_
  · rintro s ⟨_, client, stage⟩
    refine ⟨fun _ => by rw [client], fun asked => ?_, fun ended => ?_⟩
    · cases stage.symm.trans asked
    · cases stage.symm.trans ended
  · intro past s i os s' _ inStep stepped
    obtain ⟨flag, ends⟩ := client_flags stepped
    have passed := after_cases s i
    rw [← stage_step stepped] at passed
    refine ⟨fun early => ?_, fun asked => ?_, fun ended => ?_⟩
    · rw [flag]
      · have back := after_rank s i
        rw [← stage_step stepped] at back
        exact inStep.before (Nat.le_trans back early)
      · rintro ⟨rfl, shuts⟩
        have next : s'.stage = .JoinsClient := by
          rw [stage_step (s := s) (i := .Stop) stepped]
          simp only [App.after, shuts]
        rw [next] at early
        exact absurd early (by decide)
    · rw [asked] at passed
      cases passed with
      | stays same =>
        rw [flag]
        · exact inStep.asked same.symm
        · rintro ⟨_, shuts⟩
          cases same.trans shuts
      | @joins name _ _ _ next => cases name <;> cases next
      | shuts here =>
        have took := (clientPart E).moves stepped (clientInput_shutdown.mpr ⟨rfl, here⟩)
        exact (congrArg (fun r => r.1.shutdown) (Except.ok.inj took)).symm
    · rw [ended] at passed
      cases passed with
      | stays same => exact ends (inStep.ended same.symm)
      | @joins name _ _ _ next => cases name <;> cases next
      | returns _ ended => exact ends ended

/-! ### Whether `stopAutowareApp` returns -/

/-- No bridge whose cancel has missed is waited for. -/
def App.Clear (s : App E) : Prop := ∀ name, s.WaitsFor name → Tickers.pulse (s.bridge name) = 0

theorem own_open {m : Moment (App E) (Turn E) (Effect E)} (other : ∀ turn, m.input ≠ .Client turn) : LeavesOpen m := by
  rintro (reads | writes)
  · exact absurd reads (other _)
  · exact absurd writes (other _)

theorem start_one (s t : App E) (first : (machine E).Start s) (first' : (machine E).Start t) : s = t := by
  obtain ⟨bridge, client, stage⟩ := s
  obtain ⟨bridge', client', stage'⟩ := t
  obtain ⟨bridges, own, here⟩ := first
  obtain ⟨bridges', own', here'⟩ := first'
  obtain rfl : bridge = bridge' := funext fun name => (bridges name).trans (bridges' name).symm
  cases own.trans own'.symm
  cases here.trans here'.symm
  rfl

/-- A bridge goes on by itself. -/
theorem bridge_goes (run : Runs (machine E) past s) {name : Name} {turns : List Tickers.Turn} {b : Tickers.Bridge}
    {frames : List Tickers.Effect} (done : burst Tickers.machine (s.bridge name) turns = .ok (b, frames))
    (own : ∀ turn ∈ turns, turn ≠ .Cancel ∧ turn ≠ .Reset) :
    ∃ newer, Runs (machine E) (newer ++ past) { s with bridge := Function.update s.bridge name b } ∧
      ∀ m ∈ newer, LeavesOpen m := by
  obtain ⟨newer, alone, read, _⟩ := burst_runs (Part.runs (P := bridgePart E name) run) done
  have may : ∀ n ∈ newer, (bridgeOwn E name).May n.pre n.input := by
    intro n member
    refine own n.input ?_
    rw [← read]
    exact List.mem_map_of_mem (List.mem_reverse.mpr member)
  obtain ⟨newer', run', from_⟩ := (bridgeOwn E name).lift Tickers.start_one run alone may
  refine ⟨newer', run', fun m member => own_open fun turn asks => ?_⟩
  obtain ⟨n, _, same, _⟩ := from_ m member
  cases same.symm.trans asks

/-- Under `shutdown_` the client goes on by itself to its end. -/
theorem client_goes (run : Runs (machine E) past s) (down : s.client.shutdown = true)
    (free : ¬ StreamLife.Stuck s.client) : ∃ newer c, Runs (machine E) (newer ++ past) { s with client := c } ∧
      (∀ m ∈ newer, LeavesOpen m) ∧ c.ended = true := by
  have own : Runs (StreamLife.machine E) ((clientPart E).past past) s.client := Part.runs (P := clientPart E) run
  obtain ⟨newer, c, alone, open_, ended⟩ := StreamLife.canEnd_free own down free
  obtain ⟨newer', run', from_⟩ := (clientOwn E).lift StreamLife.start_one run alone
    fun n member _ => (StreamLife.down_run own down alone).2 n member
  refine ⟨newer', c, run', fun m member asks => ?_, ended⟩
  obtain ⟨n, earlier, same, pre⟩ := from_ m member
  have same : m.input = .Client n.input := same
  have pre : m.pre.client = n.pre := pre
  rw [pre]
  refine open_ n earlier (asks.imp (fun reads => ?_) fun writes => ?_)
  · exact Turn.Client.inj (same.symm.trans reads)
  · exact Turn.Client.inj (same.symm.trans writes)

/-- The stopping thread does not bring the client to where it waits for the gateway. -/
theorem stop_free {t : App E} {os : List (Effect E)} (stepped : step s .Stop = .ok (t, os))
    (free : ¬ StreamLife.Stuck s.client) : ¬ StreamLife.Stuck t.client := by
  by_cases shuts : s.stage = .Shuts
  · have took := (clientPart E).moves (i := .Stop) stepped (clientInput_shutdown.mpr ⟨rfl, shuts⟩)
    have asked : { s.client with shutdown := true } = t.client := congrArg Prod.fst (Except.ok.inj took)
    rw [← asked]
    exact free
  · have same : t.client = s.client := (clientPart E).rests (i := .Stop) stepped (if_neg shuts)
    rwa [same]

/-- While the gateway leaves the stream open, the stopping thread may come further
    with nothing in its way. -/
def Advances (past : Past E) (s : App E) : Prop :=
  ∃ newer t, Runs (machine E) (newer ++ past) t ∧ (∀ m ∈ newer, LeavesOpen m) ∧ s.stage.rank < t.stage.rank ∧
    t.Clear ∧ ¬ StreamLife.Stuck t.client

/-- The stopping thread's turn takes it to a later stage. -/
theorem advances_stop {newer : Past E} {s₁ : App E} {stage : Stage} (run : Runs (machine E) (newer ++ past) s₁)
    (open_ : ∀ m ∈ newer, LeavesOpen m) (next : s₁.after .Stop = stage) (further : s.stage.rank < stage.rank)
    (clear : ∀ name, stage = .Resets name ∨ stage = .Joins name → ∀ t os,
      Runs (machine E) (⟨s₁, .Stop, os, t⟩ :: (newer ++ past)) t → Tickers.pulse (t.bridge name) = 0)
    (free : ¬ StreamLife.Stuck s₁.client) : Advances past s := by
  cases stepped : step s₁ .Stop with
  | error e => cases e
  | ok r =>
    obtain ⟨t, os⟩ := r
    have run' : Runs (machine E) (⟨s₁, .Stop, os, t⟩ :: (newer ++ past)) t := run.step stepped
    have reached : t.stage = stage := (stage_step stepped).trans next
    refine ⟨_ :: newer, t, run', List.forall_mem_cons.mpr ⟨own_open nofun, open_⟩, ?_, ?_, stop_free stepped free⟩
    · rwa [reached]
    · exact fun name waits => clear name (reached ▸ waits) t os run'

/-- The stopping thread's turn, where no other has to come first. -/
theorem advances_now {stage : Stage} (run : Runs (machine E) past s) (next : s.after .Stop = stage)
    (further : s.stage.rank < stage.rank)
    (clear : ∀ name, stage = .Resets name ∨ stage = .Joins name → Tickers.pulse (s.bridge name) = 0)
    (free : ¬ StreamLife.Stuck s.client) : Advances past s := by
  have run₁ : Runs (machine E) ([] ++ past) s := run
  refine advances_stop run₁ (fun m member => absurd member List.not_mem_nil) next further ?_ free
  intro name waits t os run'
  -- a bridge that has lost its pulse does not get it back
  obtain ⟨m, member, hits⟩ := (pulse_zero_iff run name).mp (clear name waits)
  exact (pulse_zero_iff run' name).mpr ⟨m, List.mem_cons_of_mem _ member, hits⟩

/-- A cancel that finds the timer waiting, where the bridge has been led to that. -/
theorem advances_cancels (run : Runs (machine E) past s) (free : ¬ StreamLife.Stuck s.client) {name : Name}
    (here : s.stage = .Cancels name) : Advances past s := by
  have early : s.stage.rank ≤ 3 * name.place + 1 := by
    rw [here]
    exact Nat.le_refl _
  have one := early_pulse run early
  have going : (s.bridge name).ended = false := by
    by_contra ended
    have zero := ended_pulse run (Bool.not_eq_false _ ▸ ended)
    omega
  obtain ⟨count, handlers, frames, armed, _⟩ := Tickers.arms_of_one one going
  obtain ⟨newer, run₁, open_⟩ := bridge_goes run armed (by simp)
  have next : App.after { s with
      bridge := Function.update s.bridge name ⟨handlers, true, (s.bridge name).guarded, false⟩ } .Stop =
        .Resets name := by
    simp only [App.after, here]
  refine advances_stop run₁ open_ next ?_ ?_ free
  · rw [here]
    exact Nat.lt_succ_self _
  · rintro other (same | same) t os run₂ <;> cases same
    exact (pulse_zero_iff run₂ name).mpr ⟨_, List.mem_cons_self, rfl, here, by simp⟩

/-- A thread with nothing left to do ends. -/
theorem thread_ends (run : Runs (machine E) past s) {name : Name} (here : s.stage = .Joins name)
    (zero : Tickers.pulse (s.bridge name) = 0) : ∃ newer t, Runs (machine E) (newer ++ past) t ∧
      (∀ m ∈ newer, LeavesOpen m) ∧ (t.bridge name).ended = true ∧ t.stage = s.stage ∧ t.client = s.client := by
  cases going : (s.bridge name).ended with
  | true => exact ⟨[], s, run, fun m member => absurd member List.not_mem_nil, going, rfl, rfl⟩
  | false =>
    have ends := Tickers.ends_of_zero zero going
    rw [← joins_unguarded run name here] at ends
    have own : ∀ turn ∈ List.replicate (s.bridge name).handlers.length Tickers.Turn.Runs ++ [.Ends],
        turn ≠ .Cancel ∧ turn ≠ .Reset := by
      intro turn member
      rcases List.mem_append.mp member with runs | ends
      · rw [(List.mem_replicate.mp runs).2]
        exact ⟨nofun, nofun⟩
      · rw [List.mem_singleton.mp ends]
        exact ⟨nofun, nofun⟩
    obtain ⟨newer, run', open_⟩ := bridge_goes run ends own
    exact ⟨newer, _, run', open_, by simp, rfl, rfl⟩

/-- The join of a thread that can end returns. -/
theorem advances_joins (run : Runs (machine E) past s) (free : ¬ StreamLife.Stuck s.client) {name : Name}
    (here : s.stage = .Joins name) (zero : Tickers.pulse (s.bridge name) = 0) : Advances past s := by
  obtain ⟨newer, s₁, run₁, open_, ended, stage, client⟩ := thread_ends run here zero
  have next : s₁.after .Stop = name.next := by simp only [App.after, stage, here, ended, if_true]
  refine advances_stop run₁ open_ next ?_ ?_ (client ▸ free)
  · rw [here, next_rank]
    exact Nat.lt_succ_self _
  · rintro other (same | same) <;> cases name <;> cases same

/-- The stopping thread comes further. -/
theorem advances (run : Runs (machine E) past s) (clear : s.Clear) (free : ¬ StreamLife.Stuck s.client)
    (going : s.stage ≠ .Returned) : Advances past s := by
  cases here : s.stage with
  | Cancels name => exact advances_cancels run free here
  | Joins name => exact advances_joins run free here (clear name (.inr here))
  | NotCalled =>
    have next : s.after .Stop = .Cancels .Planning := by simp only [App.after, here]
    refine advances_now run next ?_ ?_ free
    · rw [here]
      decide
    · rintro other (same | same) <;> cases same
  | Resets name =>
    have next : s.after .Stop = .Joins name := by simp only [App.after, here]
    refine advances_now run next ?_ ?_ free
    · rw [here]
      exact Nat.lt_succ_self _
    · rintro other (same | same) <;> cases same
      exact clear name (.inl here)
  | Shuts =>
    have next : s.after .Stop = .JoinsClient := by simp only [App.after, here]
    refine advances_now run next ?_ ?_ free
    · rw [here]
      decide
    · rintro other (same | same) <;> cases same
  | JoinsClient =>
    obtain ⟨newer, c, run₁, open_, ended⟩ := client_goes run ((inStep_run run).asked here) free
    have next : App.after { s with client := c } .Stop = .Returned := by
      simp only [App.after, here, ended, if_true]
    refine advances_stop run₁ open_ next ?_ ?_ (StreamLife.ended_free (Part.runs (P := clientPart E) run₁) ended)
    · rw [here]
      decide
    · rintro other (same | same) <;> cases same
  | Returned => exact absurd here going

theorem rank_le (stage : Stage) : stage.rank ≤ 18 := by
  cases stage with
  | Cancels name | Resets name | Joins name => cases name <;> simp [Stage.rank, Name.place]
  | _ => simp [Stage.rank]

theorem canReturn_clear (run : Runs (machine E) past s) (clear : s.Clear) (free : ¬ StreamLife.Stuck s.client) :
    CanReturn past := by
  induction gap : 18 - s.stage.rank using Nat.strongRecOn generalizing past s with
  | _ k ih =>
    by_cases returned : s.stage = .Returned
    · exact ⟨[], s, run, fun m member => absurd member List.not_mem_nil, returned⟩
    · obtain ⟨newer, t, run', open_, further, clear', free'⟩ := advances run clear free returned
      have bound := rank_le t.stage
      obtain ⟨last, u, run'', open', done⟩ := ih _ (by omega) run' clear' free' rfl
      refine ⟨last ++ newer, u, by rwa [List.append_assoc], fun m member => ?_, done⟩
      exact (List.mem_append.mp member).elim (open' m) (open_ m)

/-- A bridge whose cancel has missed goes on ticking, and the stopping thread goes on waiting for it. -/
theorem held_run (run : Runs (machine E) past s) {name : Name} (waits : s.WaitsFor name)
    (one : Tickers.pulse (s.bridge name) = 1) {newer : Past E} {t : App E} (run' : Runs (machine E) (newer ++ past) t) :
    t.WaitsFor name ∧ Tickers.pulse (t.bridge name) = 1 := by
  induction newer generalizing t with
  | nil => exact run.unique start_one run' ▸ ⟨waits, one⟩
  | cons m newer ih =>
    obtain ⟨earlier, stepped, rfl⟩ := run'.inv
    obtain ⟨waits, one⟩ := ih earlier
    have ticks : Tickers.pulse (m.post.bridge name) = 1 := by
      refine (pulse_cases run' name).resolve_left fun zero => ?_
      obtain ⟨n, member, stops, cancels, armed⟩ := (pulse_zero_iff run' name).mp zero
      rcases List.mem_cons.mp member with rfl | old
      · rcases waits with here | here <;> cases cancels.symm.trans here
      · have gone := (pulse_zero_iff earlier name).mpr ⟨n, old, stops, cancels, armed⟩
        omega
    refine ⟨?_, ticks⟩
    have passed := after_cases m.pre m.input
    rw [← stage_step stepped] at passed
    generalize m.input = i at passed
    unfold App.WaitsFor at waits ⊢
    generalize m.post.stage = stage at passed ⊢
    cases passed with
    | stays same => rwa [same]
    | resets here =>
      rw [here] at waits
      rcases waits with same | same <;> cases same
      exact .inr rfl
    | joins here ended _ =>
      rw [here] at waits
      rcases waits with same | same <;> cases same
      have zero := ended_pulse earlier ended
      omega
    | begins here | cancels here | shuts here | returns here _ =>
      rw [here] at waits
      rcases waits with same | same <;> cases same

/-- The gateway that leaves the stream open leaves a reader waiting. -/
theorem stuck_run (run : Runs (machine E) past s) (stuck : StreamLife.Stuck s.client) {newer : Past E} {t : App E}
    (run' : Runs (machine E) (newer ++ past) t) (open_ : ∀ m ∈ newer, LeavesOpen m) : StreamLife.Stuck t.client := by
  have alone : Runs (StreamLife.machine E) ((clientPart E).past (newer ++ past)) t.client :=
    Part.runs (P := clientPart E) run'
  have own : Runs (StreamLife.machine E) ((clientPart E).past past) s.client := Part.runs (P := clientPart E) run
  rw [Part.past, List.filterMap_append] at alone
  refine StreamLife.stuck_run own stuck alone fun n member asks => ?_
  obtain ⟨m, later, seen⟩ := List.mem_filterMap.mp member
  obtain ⟨turn, given, rfl⟩ := Option.map_eq_some_iff.mp seen
  have given : clientInput m.pre m.input = some turn := given
  refine open_ m later (asks.imp (fun reads => ?_) fun writes => ?_)
  · have reads : turn = .Live (.ReadReturns false) := reads
    exact clientInput_live.mp (given.trans (congrArg some reads))
  · have writes : turn = .Live (.WriteReturns false) := writes
    exact clientInput_live.mp (given.trans (congrArg some writes))

/-- In every run `stopAutowareApp` can return, while the gateway leaves the stream open,
    exactly when the bridge that it waits for was cancelled while its timer waited, and
    the stream's reader does not wait for a gateway that was heard. Where that cancel
    has missed, it waits for the bridge ever after, whatever the gateway does, and the
    stream client is never asked to stop. -/
theorem stop_returns_iff (run : Runs (machine E) past s) :
    (CanReturn past ↔ (∀ name, s.WaitsFor name → ∃ m ∈ past, Hits name m) ∧ ¬ StreamLife.Stuck s.client) ∧
      ∀ name, s.WaitsFor name → (¬ ∃ m ∈ past, Hits name m) → ∀ newer t, Runs (machine E) (newer ++ past) t →
        t.WaitsFor name ∧ t.client.shutdown = false := by
  have missed : ∀ name, s.WaitsFor name → (¬ ∃ m ∈ past, Hits name m) → ∀ newer t,
      Runs (machine E) (newer ++ past) t → t.WaitsFor name ∧ t.client.shutdown = false := by
    intro name waits none newer t run'
    have one := (pulse_cases run name).resolve_left fun zero => none ((pulse_zero_iff run name).mp zero)
    have still := (held_run run waits one run').1
    refine ⟨still, (inStep_run run').before ?_⟩
    rcases still with here | here <;> rw [here] <;> cases name <;> decide
  refine ⟨⟨?_, ?_⟩, missed⟩
  · rintro ⟨newer, t, run', open_, returned⟩
    refine ⟨fun name waits => ?_, fun stuck => ?_⟩
    · by_contra none
      rcases (missed name waits none newer t run').1 with here | here <;> cases returned.symm.trans here
    · have ended := (inStep_run run').ended returned
      exact StreamLife.ended_free (Part.runs (P := clientPart E) run') ended (stuck_run run stuck run' open_)
  · rintro ⟨hits, free⟩
    exact canReturn_clear run (fun name waits => (pulse_zero_iff run name).mpr (hits name waits)) free

end

/-- The agent as `startAutowareApp` leaves it. -/
def started (E : Type) : App E :=
  ⟨fun _ => ⟨[.Schedule], false, true, false⟩, ⟨⟨[], none⟩, false, false, false, false⟩, .NotCalled⟩

/-- Bridges are shut down one after the other, each while its timer waits. -/
def ends (names : List Name) : List (Turn Nat) :=
  names.flatMap fun name => [.Bridge name .Runs, .Stop, .Stop, .Bridge name .Runs, .Bridge name .Ends, .Stop]

/-- All bridges are cancelled while they wait; the third one while the handler of its timer is queued. -/
theorem stop_returns_here :
    (∃ past s, Runs (machine Nat) past s ∧ s.stage = .Shuts ∧ s.client.client.stream ≠ none ∧ CanReturn past) ∧
      ∃ past s, Runs (machine Nat) past s ∧ s.stage = .Joins .Trip ∧ ¬ CanReturn past ∧
        ∀ newer t, Runs (machine Nat) (newer ++ past) t → t.WaitsFor .Trip ∧ t.client.shutdown = false := by
  constructor
  · obtain ⟨past, s, run, passes⟩ := exists_run (M := machine Nat) (s := started Nat)
      ([.Client .Begins, .Client (.Live .Connect), .Stop] ++
        ends [.Planning, .Perception, .Trip, .Cluster, .Location]) ⟨fun _ => rfl, rfl, rfl⟩
      (fun _ s => decide (s.stage = .Shuts ∧ s.client.client.stream ≠ none ∧ ¬ StreamLife.Stuck s.client))
      (by decide +kernel)
    obtain ⟨shuts, opened, free⟩ := of_decide_eq_true passes
    refine ⟨past, s, run, shuts, opened, (stop_returns_iff run).1.mpr ⟨fun name waits => ?_, free⟩⟩
    rcases waits with here | here <;> cases shuts.symm.trans here
  · obtain ⟨past, s, run, passes⟩ := exists_run (M := machine Nat) (s := started Nat)
      (.Stop :: ends [.Planning, .Perception] ++ [.Bridge .Trip .Runs, .Bridge .Trip .Expires, .Stop, .Stop])
      ⟨fun _ => rfl, rfl, rfl⟩
      (fun past s => decide (s.stage = .Joins .Trip) && past.all fun m =>
        !(decide (m.input = .Stop ∧ m.pre.stage = .Cancels .Trip ∧ (m.pre.bridge .Trip).armed = true)))
      (by decide +kernel)
    rw [Bool.and_eq_true, decide_eq_true_eq] at passes
    obtain ⟨joins, none⟩ := passes
    have missed : ¬ ∃ m ∈ past, Hits .Trip m := by
      rintro ⟨m, member, hits⟩
      have misses := List.all_eq_true.mp none m member
      rw [Bool.not_eq_true', decide_eq_false_iff_not] at misses
      exact misses hits
    obtain ⟨returns, stays⟩ := stop_returns_iff run
    have waits : s.WaitsFor .Trip := .inr joins
    exact ⟨past, s, run, joins, fun can => missed ((returns.mp can).1 .Trip waits), stays .Trip waits missed⟩

end AutowareAgent.Shutdown
