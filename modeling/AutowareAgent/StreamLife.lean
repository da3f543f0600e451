import AutowareAgent.Deliveries

/-!
The whole life of `VehicleGatewayStreamClient`, with `shutdown`. The reconnect
thread asks for `shutdown_` before each stream, the watchdog and the writer ask
for it in their loops, and `shutdown` waits for all of them; the reader never asks.
-/
namespace AutowareAgent.StreamLife
open AutowareAgent.Machines AutowareAgent.EventStream

/-- The client, whether `TryCancel` was called on the present stream, and where
    `run_with_reconnect` is: between two streams, on its way to open one, at its end. -/
structure Client (E : Type) where
  client : StreamClient E
  cancelled : Bool
  connecting : Bool
  shutdown : Bool
  ended : Bool
  deriving DecidableEq, Repr

/-- What happens next: `shutdown` is called, `run_with_reconnect` reaches the
    condition of its loop, a thread goes on as in `EventStream`. -/
inductive Turn (E : Type)
  | Shutdown
  | Begins
  | Live (turn : EventStream.Turn E)
  deriving DecidableEq, Repr

section
variable {E : Type}

/-- The watchdog leaves its loop with nothing read. -/
def givesUp (waited : Bool) (st : Stream E) : Bool := st.watching && !st.readReceived && waited

/-- The watchdog asks for `shutdown_` where it asks for its deadline. -/
def Client.sees (s : Client E) : EventStream.Turn E → EventStream.Turn E
  | .Watch deadlinePassed => .Watch (deadlinePassed || s.shutdown)
  | turn => turn

/-- The watchdog that gives up and the writer whose `Write` fails call `TryCancel`. -/
def Client.cancels (s : Client E) : EventStream.Turn E → Bool
  | .Watch waited => s.client.stream.any (givesUp waited)
  | .WriteReturns ok => !ok && !(held s.client).isEmpty
  | _ => false

/-- A thread of the present stream goes on. -/
def Client.goes (s : Client E) (turn : EventStream.Turn E) : Except Empty (Client E × List (Attempt E)) :=
  (EventStream.step s.client (s.sees turn)).map fun r =>
    ({ s with client := r.1, cancelled := s.cancelled || s.cancels (s.sees turn) }, r.2)

/-- The writer leaves its loop for `shutdown_`, at its condition or after its wait. -/
def Client.leaves (s : Client E) (here : Writer E → Bool) : Client E :=
  { s with client := { s.client with
      stream := s.client.stream.map fun st => if here st.writer then { st with writer := .Done } else st } }

def step (s : Client E) : Turn E → Except Empty (Client E × List (Attempt E))
  | .Shutdown => .ok ({ s with shutdown := true }, [])
  | .Begins =>
    .ok (if s.client.stream.isSome || s.connecting || s.ended then s
      else if s.shutdown then { s with ended := true } else { s with connecting := true }, [])
  | .Live .Connect =>
    .ok (if s.connecting then
        { s with client := { s.client with stream := some .opened }, connecting := false, cancelled := false }
      else s, [])
  | .Live .WriterTop => if s.shutdown then .ok (s.leaves (· matches .Top), []) else s.goes .WriterTop
  | .Live .WaitReturns => if s.shutdown then .ok (s.leaves (· matches .Waiting), []) else s.goes .WaitReturns
  | .Live turn => s.goes turn

/-- The client's machine, from its construction to its end. -/
def machine (E : Type) : Machine (Client E) (Turn E) (Attempt E) Empty where
  Start s := s = ⟨⟨[], none⟩, false, false, false, false⟩
  step := step

/-- The client's runs. -/
abbrev Past (E : Type) := History (Client E) (Turn E) (Attempt E)

/-- The events that a turn enqueues. -/
def Turn.enqueues : Turn E → List E
  | .Live turn => turn.enqueues
  | _ => []

/-- The events that were enqueued, in their order. -/
def enqueued (past : Past E) : List E := (inputs past).flatMap Turn.enqueues

/-- The events whose `Write` has returned, in their order. -/
def tried (past : Past E) : List E := (outputs past).map Attempt.ev

/-- The gateway leaves the stream open: `Read` ends, and `Write` fails, only for a
    stream that the client has cancelled. -/
def LeavesOpen (m : Moment (Client E) (Turn E) (Attempt E)) : Prop :=
  m.input = .Live (.ReadReturns false) ∨ m.input = .Live (.WriteReturns false) → m.pre.cancelled = true

/-- The reader waits on a stream that nobody has cancelled, and the gateway was heard on it. -/
def Stuck (s : Client E) : Prop :=
  s.cancelled = false ∧ ∃ st, s.client.stream = some st ∧ st.reading = true ∧ st.readReceived = true

/-- While the gateway leaves the stream open, the run may go on to the end of `run_with_reconnect`. -/
def CanEnd (past : Past E) : Prop :=
  ∃ newer t, Runs (machine E) (newer ++ past) t ∧ (∀ m ∈ newer, LeavesOpen m) ∧ t.ended = true

/-! ### One step -/

theorem goes_inv {s s' : Client E} {turn : EventStream.Turn E} {as : List (Attempt E)}
    (stepped : s.goes turn = .ok (s', as)) : ∃ client, EventStream.step s.client (s.sees turn) = .ok (client, as) ∧
      s' = { s with client := client, cancelled := s.cancelled || s.cancels (s.sees turn) } := by
  cases went : EventStream.step s.client (s.sees turn) with
  | error e => cases e
  | ok r =>
    rw [Client.goes, went] at stepped
    cases stepped
    exact ⟨r.1, rfl, rfl⟩

@[simp] theorem sees_enqueues (s : Client E) (turn : EventStream.Turn E) :
    (s.sees turn).enqueues = turn.enqueues := by
  cases turn <;> rfl

/-- Only a writer after its wait takes an event off the queue. -/
theorem queue_grows {c c' : StreamClient E} {turn : EventStream.Turn E} {as : List (Attempt E)}
    (stepped : EventStream.step c turn = .ok (c', as)) (other : turn ≠ .WaitReturns) :
    c'.writeQueue = c.writeQueue ++ turn.enqueues := by
  obtain ⟨queue, stream⟩ := c
  cases turn with
  | WaitReturns => exact absurd rfl other
  | WriteReturns ok => cases stream <;> cases stepped <;> simp [EventStream.Turn.enqueues]
  | Enqueue ev => cases stepped; rfl
  | Connect => cases stepped; cases stream <;> simp [EventStream.Turn.enqueues]
  | Join =>
    cases stepped
    simp only [EventStream.Turn.enqueues, List.append_nil]
    split <;> rfl
  | _ => cases stepped; simp [EventStream.Turn.enqueues]

/-- A writer that leaves has nothing in its hand. -/
theorem leaves_held {s : Client E} {here : Writer E → Bool} (free : ∀ w, here w = true → w.held = []) :
    held (s.leaves here).client = held s.client := by
  obtain ⟨⟨queue, stream⟩, cancelled, connecting, shutdown, ended⟩ := s
  cases stream with
  | none => rfl
  | some st =>
    by_cases leaves : here st.writer = true
    · simp only [Client.leaves, held, Option.map_some, leaves, if_true]
      exact (free st.writer leaves).symm
    · simp [Client.leaves, held, leaves]

theorem top_held (w : Writer E) (top : (w matches .Top) = true) : w.held = [] := by
  cases w <;> simp [Writer.held] at top ⊢

theorem waiting_held (w : Writer E) (waiting : (w matches .Waiting) = true) : w.held = [] := by
  cases w <;> simp [Writer.held] at waiting ⊢

/-- What the client has in hand and on its queue goes to `Write`, in every step of its life. -/
theorem step_accounts {s s' : Client E} {i : Turn E} {as : List (Attempt E)} (stepped : step s i = .ok (s', as))
    (idle : s.connecting = true → s.client.stream = none) :
    as.map Attempt.ev ++ (held s'.client ++ s'.client.writeQueue) =
      held s.client ++ s.client.writeQueue ++ i.enqueues := by
  have live : ∀ {turn}, s.goes turn = .ok (s', as) → as.map Attempt.ev ++ (held s'.client ++ s'.client.writeQueue) =
      held s.client ++ s.client.writeQueue ++ turn.enqueues := by
    intro turn went
    obtain ⟨client, same, rfl⟩ := goes_inv went
    rw [EventStream.step_accounts same, sees_enqueues]
  have quits : ∀ {here : Writer E → Bool}, (∀ w, here w = true → w.held = []) →
      held (s.leaves here).client ++ (s.leaves here).client.writeQueue =
        held s.client ++ s.client.writeQueue ++ ([] : List E) := by
    intro here free
    rw [leaves_held free, List.append_nil]
    rfl
  cases i with
  | Shutdown =>
    cases stepped
    exact (List.append_nil _).symm
  | Begins =>
    cases stepped
    have same : ∀ t : Client E, t.client = s.client →
        held t.client ++ t.client.writeQueue = held s.client ++ s.client.writeQueue ++ [] := by
      intro t own
      rw [own, List.append_nil]
    apply same
    split
    · rfl
    · split <;> rfl
  | Live turn =>
    cases turn with
    | Connect =>
      cases stepped
      by_cases asked : s.connecting = true
      · simp [asked, held, idle asked, Stream.opened, Writer.held, Turn.enqueues, EventStream.Turn.enqueues]
      · simp [asked, Turn.enqueues, EventStream.Turn.enqueues]
    | WriterTop =>
      simp only [step] at stepped
      split at stepped
      · cases stepped
        exact quits top_held
      · exact live stepped
    | WaitReturns =>
      simp only [step] at stepped
      split at stepped
      · cases stepped
        exact quits waiting_held
      · exact live stepped
    | _ => exact live stepped

/-! ### What holds in every state -/

/-- The reconnect thread is at one place, and a watchdog that has ended with
    nothing read has cancelled its stream. -/
structure Tidy (s : Client E) : Prop where
  idle : s.connecting = true → s.client.stream = none
  finished : s.ended = true → s.client.stream = none ∧ s.connecting = false
  heard : ∀ st, s.client.stream = some st → s.cancelled = false → st.watching = false → st.readReceived = true

/-- What a turn may do to the reader and the watchdog of a stream. -/
structure Kept (turn : EventStream.Turn E) (st st' : Stream E) : Prop where
  received : st.readReceived = true → st'.readReceived = true
  watched : st'.watching = false → st.watching = false ∨ st.readReceived = true ∨
    ∃ waited, turn = .Watch waited ∧ givesUp waited st = true
  read : st.reading = true → st'.reading = true ∨ turn = .ReadReturns false

theorem Kept.same {turn : EventStream.Turn E} {st st' : Stream E} (received : st'.readReceived = st.readReceived)
    (watching : st'.watching = st.watching) (reading : st'.reading = st.reading) : Kept turn st st' :=
  ⟨fun own => received.trans own, fun own => .inl (watching.symm.trans own), fun own => .inl (reading.trans own)⟩

theorem threads_keep {c c' : StreamClient E} {turn : EventStream.Turn E} {as : List (Attempt E)}
    (stepped : EventStream.step c turn = .ok (c', as)) (other : turn ≠ .Connect) {st' : Stream E}
    (present : c'.stream = some st') : ∃ st, c.stream = some st ∧ Kept turn st st' := by
  obtain ⟨queue, stream⟩ := c
  cases stream with
  | none =>
    cases turn with
    | Connect => exact absurd rfl other
    | _ => cases stepped; cases present
  | some st =>
    refine ⟨st, rfl, ?_⟩
    cases turn with
    | Connect => exact absurd rfl other
    | Enqueue ev =>
      cases stepped
      cases present
      exact .same rfl rfl rfl
    | ReadReturns ok =>
      cases stepped
      cases present
      unfold Stream.readReturns
      split
      · cases ok
        · exact ⟨id, .inl, fun _ => .inr rfl⟩
        · exact ⟨fun _ => rfl, .inl, .inl⟩
      · exact .same rfl rfl rfl
    | Watch waited =>
      cases stepped
      cases present
      unfold Stream.watch
      split
      · rename_i watching
        split
        · rename_i received
          exact ⟨id, fun _ => .inr (.inl received), .inl⟩
        · rename_i nothing
          split
          · rename_i passed
            exact ⟨id, fun _ => .inr (.inr ⟨waited, rfl, by simp [givesUp, watching, nothing, passed]⟩), .inl⟩
          · exact .same rfl rfl rfl
      · exact .same rfl rfl rfl
    | WriterTop =>
      cases stepped
      cases present
      unfold Stream.writerTop
      split <;> exact .same rfl rfl rfl
    | WaitReturns =>
      cases stepped
      cases present
      unfold waitReturns
      split
      · split
        · exact .same rfl rfl rfl
        · split <;> exact .same rfl rfl rfl
      · exact .same rfl rfl rfl
    | WriteReturns ok =>
      cases stepped
      cases present
      unfold Stream.writeReturns
      split
      · cases ok <;> exact .same rfl rfl rfl
      · exact .same rfl rfl rfl
    | Join =>
      cases stepped
      simp only [Option.any_some] at present
      split at present <;> cases present
      exact .same rfl rfl rfl

theorem leaves_keep {s : Client E} {here : Writer E → Bool} (turn : EventStream.Turn E) {st' : Stream E}
    (present : (s.leaves here).client.stream = some st') : ∃ st, s.client.stream = some st ∧ Kept turn st st' := by
  obtain ⟨st, own, rfl⟩ := Option.map_eq_some_iff.mp present
  refine ⟨st, own, ?_⟩
  by_cases leaves : here st.writer = true
  · simp only [leaves, if_true]
    exact .same rfl rfl rfl
  · simp only [leaves]
    exact .same rfl rfl rfl

/-- What a turn of the present stream does, unless the stream is opened. -/
theorem live_inv {s s' : Client E} {turn : EventStream.Turn E} {as : List (Attempt E)}
    (stepped : step s (.Live turn) = .ok (s', as)) (other : turn ≠ .Connect) :
    s'.connecting = s.connecting ∧ s'.shutdown = s.shutdown ∧ s'.ended = s.ended ∧
      s'.cancelled = (s.cancelled || s.cancels (s.sees turn)) ∧
      ∀ st', s'.client.stream = some st' → ∃ st, s.client.stream = some st ∧ Kept (s.sees turn) st st' := by
  have live : s.goes turn = .ok (s', as) → s'.connecting = s.connecting ∧ s'.shutdown = s.shutdown ∧
      s'.ended = s.ended ∧ s'.cancelled = (s.cancelled || s.cancels (s.sees turn)) ∧
      ∀ st', s'.client.stream = some st' → ∃ st, s.client.stream = some st ∧ Kept (s.sees turn) st st' := by
    intro went
    obtain ⟨client, same, rfl⟩ := goes_inv went
    refine ⟨rfl, rfl, rfl, rfl, fun st' present => threads_keep same ?_ present⟩
    intro asks
    cases turn with
    | Connect => exact other rfl
    | _ => cases asks
  cases turn with
  | Connect => exact absurd rfl other
  | WriterTop =>
    simp only [step] at stepped
    split at stepped
    · cases stepped
      exact ⟨rfl, rfl, rfl, (Bool.or_false _).symm, fun st' present => leaves_keep _ present⟩
    · exact live stepped
  | WaitReturns =>
    simp only [step] at stepped
    split at stepped
    · cases stepped
      exact ⟨rfl, rfl, rfl, (Bool.or_false _).symm, fun st' present => leaves_keep _ present⟩
    · exact live stepped
  | _ => exact live stepped

/-- Only `shutdown` sets its flag, and `run_with_reconnect` ends for good. -/
theorem flags_step {s s' : Client E} {i : Turn E} {as : List (Attempt E)} (stepped : step s i = .ok (s', as)) :
    (i ≠ .Shutdown → s'.shutdown = s.shutdown) ∧ (s.ended = true → s'.ended = true) := by
  cases i with
  | Shutdown =>
    cases stepped
    exact ⟨fun other => absurd rfl other, id⟩
  | Begins =>
    cases stepped
    split
    · exact ⟨fun _ => rfl, id⟩
    · split
      · exact ⟨fun _ => rfl, fun _ => rfl⟩
      · exact ⟨fun _ => rfl, id⟩
  | Live turn =>
    by_cases opens : turn = .Connect
    · subst opens
      cases stepped
      split <;> exact ⟨fun _ => rfl, id⟩
    · obtain ⟨_, down, ended, _⟩ := live_inv stepped opens
      exact ⟨fun _ => down, ended.trans⟩

theorem tidy_step {s s' : Client E} {i : Turn E} {as : List (Attempt E)} (tidy : Tidy s)
    (stepped : step s i = .ok (s', as)) : Tidy s' := by
  cases i with
  | Shutdown =>
    cases stepped
    exact ⟨tidy.idle, tidy.finished, tidy.heard⟩
  | Begins =>
    cases stepped
    by_cases busy : (s.client.stream.isSome || s.connecting || s.ended) = true
    · rw [if_pos busy]
      exact tidy
    · rw [if_neg busy]
      simp only [Bool.or_eq_true, not_or, Bool.not_eq_true, Option.isSome_eq_false_iff, Option.isNone_iff_eq_none]
        at busy
      obtain ⟨⟨none, idle⟩, going⟩ := busy
      split
      · exact ⟨tidy.idle, fun _ => ⟨none, idle⟩, tidy.heard⟩
      · exact ⟨fun _ => none, fun finished => absurd finished (by simp [going]), tidy.heard⟩
  | Live turn =>
    by_cases opens : turn = .Connect
    · subst opens
      cases stepped
      by_cases asked : s.connecting = true
      · rw [if_pos asked]
        refine ⟨nofun, fun finished => ?_, ?_⟩
        · have idle := (tidy.finished finished).2
          rw [asked] at idle
          cases idle
        · intro st present _ ended
          cases present
          cases ended
      · rw [if_neg asked]
        exact tidy
    · obtain ⟨connecting, _, ended, cancelled, kept⟩ := live_inv stepped opens
      have gone : s.client.stream = none → s'.client.stream = none := by
        intro none
        cases present : s'.client.stream with
        | none => rfl
        | some st' =>
          obtain ⟨st, own, _⟩ := kept st' present
          rw [none] at own
          cases own
      refine ⟨?_, ?_, ?_⟩
      · rw [connecting]
        exact fun asked => gone (tidy.idle asked)
      · rw [connecting, ended]
        exact fun finished => ⟨gone (tidy.finished finished).1, (tidy.finished finished).2⟩
      · intro st' present open_ ended
        obtain ⟨st, own, keeps⟩ := kept st' present
        rw [cancelled, Bool.or_eq_false_iff] at open_
        rcases keeps.watched ended with before | received | ⟨waited, turned, gives⟩
        · exact keeps.received (tidy.heard st own open_.1 before)
        · exact keeps.received received
        · have cancels := open_.2
          rw [turned, Client.cancels, own, Option.any_some, gives] at cancels
          cases cancels

variable {past : Past E} {s : Client E}

theorem tidy_run (run : Runs (machine E) past s) : Tidy s := by
  refine run.invariant (I := fun _ s => Tidy s) ?_ ?_
  · rintro s rfl
    exact ⟨nofun, nofun, nofun⟩
  · exact fun past s i as s' _ tidy stepped => tidy_step tidy stepped

/-! ### The events -/

/-- Under `shutdown_` nothing is taken off the queue. -/
theorem shutdown_step {s s' : Client E} {i : Turn E} {as : List (Attempt E)} (stepped : step s i = .ok (s', as))
    (down : s.shutdown = true) :
    s'.shutdown = true ∧ s'.client.writeQueue = s.client.writeQueue ++ i.enqueues := by
  cases i with
  | Shutdown =>
    cases stepped
    exact ⟨rfl, (List.append_nil _).symm⟩
  | Begins =>
    cases stepped
    simp only [down, if_true]
    constructor
    · split
      · exact down
      · rfl
    · split <;> exact (List.append_nil _).symm
  | Live turn =>
    have live : turn ≠ .WaitReturns → s.goes turn = .ok (s', as) →
        s'.shutdown = true ∧ s'.client.writeQueue = s.client.writeQueue ++ turn.enqueues := by
      intro other went
      obtain ⟨client, same, rfl⟩ := goes_inv went
      refine ⟨down, ?_⟩
      have grows := queue_grows same (by cases turn <;> simp [Client.sees] at other ⊢)
      rwa [sees_enqueues] at grows
    cases turn with
    | Connect =>
      cases stepped
      constructor
      · split <;> exact down
      · split <;> exact (List.append_nil _).symm
    | WriterTop =>
      simp only [step, down, if_true] at stepped
      cases stepped
      exact ⟨down, (List.append_nil _).symm⟩
    | WaitReturns =>
      simp only [step, down, if_true] at stepped
      cases stepped
      exact ⟨down, (List.append_nil _).symm⟩
    | _ => exact live nofun stepped

theorem shutdown_stays {s s' : Client E} {i : Turn E} {as : List (Attempt E)} (stepped : step s i = .ok (s', as))
    (up : s'.shutdown = false) : s.shutdown = false := by
  cases before : s.shutdown with
  | false => rfl
  | true =>
    have down := (shutdown_step stepped before).1
    rw [up] at down
    cases down

theorem start_one (c c' : Client E) (first : (machine E).Start c) (first' : (machine E).Start c') : c = c' :=
  first.trans first'.symm

/-- What was shut down stays so. -/
theorem down_run (run : Runs (machine E) past s) (down : s.shutdown = true) {newer : Past E} {t : Client E}
    (run' : Runs (machine E) (newer ++ past) t) : t.shutdown = true ∧ ∀ n ∈ newer, n.pre.shutdown = true := by
  induction newer generalizing t with
  | nil => exact ⟨run.unique start_one run' ▸ down, fun n member => absurd member List.not_mem_nil⟩
  | cons n newer ih =>
    obtain ⟨earlier, stepped, rfl⟩ := run'.inv
    obtain ⟨before, others⟩ := ih earlier
    exact ⟨(shutdown_step stepped before).1, List.forall_mem_cons.mpr ⟨before, others⟩⟩

/-- Until `shutdown` the client's life is a run of its streams alone, with the same
    events enqueued and the same attempts. -/
theorem before_shutdown (run : Runs (machine E) past s) (up : s.shutdown = false) :
    ∃ past', Runs (EventStream.machine E) past' s.client ∧ attempts past' = outputs past ∧
      EventStream.enqueued past' = enqueued past := by
  induction run with
  | start first =>
    cases first
    exact ⟨[], .start rfl, rfl, rfl⟩
  | @step past s s' i as earlier stepped ih =>
    obtain ⟨past', run', same, own⟩ := ih (shutdown_stays stepped up)
    -- a turn of the present stream is a turn of `EventStream`
    have turns : ∀ (turn : EventStream.Turn E), EventStream.step s.client turn = .ok (s'.client, as) →
        turn.enqueues = i.enqueues → ∃ past', Runs (EventStream.machine E) past' s'.client ∧
          attempts past' = outputs (⟨s, i, as, s'⟩ :: past) ∧
          EventStream.enqueued past' = enqueued (⟨s, i, as, s'⟩ :: past) := by
      intro turn took enqueues
      refine ⟨_, run'.step (M := EventStream.machine E) took, ?_, ?_⟩
      · rw [outputs_cons, ← same]
        simp [attempts]
      · rw [enqueued, inputs_cons, List.flatMap_append, ← enqueued, ← own, List.flatMap_singleton, ← enqueues]
        simp [EventStream.enqueued]
    have idle : s'.client = s.client → as = [] → i.enqueues = [] → ∃ past', Runs (EventStream.machine E) past' s'.client ∧
        attempts past' = outputs (⟨s, i, as, s'⟩ :: past) ∧
        EventStream.enqueued past' = enqueued (⟨s, i, as, s'⟩ :: past) := by
      intro still silent nothing
      refine ⟨past', still ▸ run', ?_, ?_⟩
      · rw [outputs_cons, silent, List.append_nil, same]
      · simp [enqueued, nothing, own]
    have goes : ∀ {turn}, i = .Live turn → s.goes turn = .ok (s', as) →
        ∃ past', Runs (EventStream.machine E) past' s'.client ∧
        attempts past' = outputs (⟨s, i, as, s'⟩ :: past) ∧
        EventStream.enqueued past' = enqueued (⟨s, i, as, s'⟩ :: past) := by
      rintro turn rfl went
      obtain ⟨client, took, rfl⟩ := goes_inv went
      exact turns _ took (sees_enqueues s turn)
    have alive := shutdown_stays stepped up
    cases i with
    | Shutdown =>
      cases stepped
      cases up
    | Begins =>
      cases stepped
      refine idle ?_ rfl rfl
      split
      · rfl
      · split <;> rfl
    | Live turn =>
      cases turn with
      | Connect =>
        by_cases asked : s.connecting = true
        · have none := (tidy_run earlier).idle asked
          refine turns .Connect ?_ rfl
          simp only [machine, step, asked, if_true] at stepped
          cases stepped
          simp [EventStream.step, none]
        · simp only [machine, step, asked] at stepped
          cases stepped
          exact idle rfl rfl rfl
      | WriterTop =>
        simp only [machine, step, alive] at stepped
        exact goes rfl stepped
      | WaitReturns =>
        simp only [machine, step, alive] at stepped
        exact goes rfl stepped
      | _ => exact goes rfl stepped

/-- A stream whose reader still reads is not joined. -/
theorem reading_stays {c c' : StreamClient E} {turn : EventStream.Turn E} {as : List (Attempt E)} {st : Stream E}
    (stepped : EventStream.step c turn = .ok (c', as)) (present : c.stream = some st) (reading : st.reading = true) :
    c'.stream.isSome = true := by
  obtain ⟨queue, stream⟩ := c
  cases present
  cases turn with
  | Join =>
    have going : st.ended = false := by simp [Stream.ended, reading]
    cases stepped
    simp [going]
  | Enqueue _ | Connect | ReadReturns _ | Watch _ | WriterTop | WaitReturns | WriteReturns _ => cases stepped; rfl

theorem live_stays {s s' : Client E} {turn : EventStream.Turn E} {as : List (Attempt E)} {st : Stream E}
    (stepped : step s (.Live turn) = .ok (s', as)) (other : turn ≠ .Connect) (present : s.client.stream = some st)
    (reading : st.reading = true) : s'.client.stream.isSome = true := by
  have live : s.goes turn = .ok (s', as) → s'.client.stream.isSome = true := by
    intro went
    obtain ⟨client, same, rfl⟩ := goes_inv went
    exact reading_stays same present reading
  have quits : ∀ here, (s.leaves here).client.stream.isSome = true := by
    intro here
    simp [Client.leaves, present]
  cases turn with
  | Connect => exact absurd rfl other
  | WriterTop =>
    simp only [step] at stepped
    split at stepped
    · cases stepped
      exact quits _
    · exact live stepped
  | WaitReturns =>
    simp only [step] at stepped
    split at stepped
    · cases stepped
      exact quits _
    · exact live stepped
  | _ => exact live stepped

/-- The reader goes on waiting for as long as the gateway leaves the stream open. -/
theorem stuck_step {s s' : Client E} {i : Turn E} {as : List (Attempt E)} (tidy : Tidy s) (stuck : Stuck s)
    (stepped : step s i = .ok (s', as)) (leavesOpen : LeavesOpen ⟨s, i, as, s'⟩) : Stuck s' := by
  obtain ⟨free, st, present, reading, received⟩ := stuck
  cases i with
  | Shutdown =>
    cases stepped
    exact ⟨free, st, present, reading, received⟩
  | Begins =>
    cases stepped
    rw [present]
    exact ⟨free, st, present, reading, received⟩
  | Live turn =>
    by_cases opens : turn = .Connect
    · subst opens
      have idle : s.connecting = false := by
        cases asked : s.connecting with
        | false => rfl
        | true =>
          have none := tidy.idle asked
          rw [present] at none
          cases none
      simp only [step, idle] at stepped
      cases stepped
      exact ⟨free, st, present, reading, received⟩
    · obtain ⟨_, _, _, cancelled, kept⟩ := live_inv stepped opens
      obtain ⟨st', present'⟩ := Option.isSome_iff_exists.mp (live_stays stepped opens present reading)
      obtain ⟨own, same, keeps⟩ := kept st' present'
      rw [present] at same
      cases same
      refine ⟨?_, st', present', ?_, keeps.received received⟩
      · rw [cancelled, free, Bool.false_or]
        cases turn with
        | Watch waited => simp [Client.sees, Client.cancels, present, givesUp, received]
        | WriteReturns ok =>
          cases ok with
          | true => rfl
          | false =>
            have gone := leavesOpen (.inr rfl)
            rw [free] at gone
            cases gone
        | _ => rfl
      · rcases keeps.read reading with goes | ends
        · exact goes
        · have gone := leavesOpen (.inl (by cases turn <;> simp_all [Client.sees]))
          rw [free] at gone
          cases gone

theorem stuck_run (run : Runs (machine E) past s) (stuck : Stuck s) {newer : Past E} {t : Client E}
    (run' : Runs (machine E) (newer ++ past) t) (open_ : ∀ m ∈ newer, LeavesOpen m) : Stuck t := by
  induction newer generalizing t with
  | nil =>
    exact run.unique start_one run' ▸ stuck
  | cons m newer ih =>
    obtain ⟨earlier, stepped, rfl⟩ := run'.inv
    obtain ⟨first, rest⟩ := List.forall_mem_cons.mp open_
    exact stuck_step (tidy_run earlier) (ih earlier rest) stepped first

theorem own_open {m : Moment (Client E) (Turn E) (Attempt E)} (reads : m.input ≠ .Live (.ReadReturns false))
    (writes : m.input ≠ .Live (.WriteReturns false)) : LeavesOpen m := by
  rintro (ends | fails)
  · exact absurd ends reads
  · exact absurd fails writes

/-- Turns that are none of the gateway's make a run in which it leaves the stream open. -/
theorem burst_open {turns : List (Turn E)} {t : Client E} {as : List (Attempt E)} (run : Runs (machine E) past s)
    (done : burst (machine E) s turns = .ok (t, as))
    (own : ∀ i ∈ turns, i ≠ .Live (.ReadReturns false) ∧ i ≠ .Live (.WriteReturns false)) :
    ∃ newer, Runs (machine E) (newer ++ past) t ∧ ∀ m ∈ newer, LeavesOpen m := by
  obtain ⟨newer, run', read, _⟩ := burst_runs run done
  refine ⟨newer, run', fun m member => ?_⟩
  have turn : m.input ∈ turns := by
    rw [← read]
    exact List.mem_map_of_mem (List.mem_reverse.mpr member)
  exact own_open (own _ turn).1 (own _ turn).2

/-- Under `shutdown_` the writer and the watchdog of the present stream come to their ends. -/
theorem threads_end (s : Client E) (st : Stream E) (down : s.shutdown = true) (present : s.client.stream = some st) :
    ∃ dead as, burst (machine E) s
        [.Live .WaitReturns, .Live (.WriteReturns true), .Live .WriterTop, .Live (.Watch true)] =
      .ok ({ s with client := ⟨s.client.writeQueue, some ⟨dead, st.readReceived, st.reading, false, .Done⟩⟩,
                    cancelled := s.cancelled || givesUp true st }, as) := by
  obtain ⟨⟨queue, stream⟩, cancelled, connecting, shutdown, ended⟩ := s
  obtain ⟨dead, received, reading, watching, writer⟩ := st
  cases present
  cases down
  refine ⟨dead || (watching && !received), writer.held.map fun ev => ⟨ev, true⟩, ?_⟩
  cases writer <;> cases watching <;> cases received <;> cases dead <;> cases cancelled <;> rfl

theorem canEnd_after {newer : Past E} (open_ : ∀ m ∈ newer, LeavesOpen m) (later : CanEnd (newer ++ past)) :
    CanEnd past := by
  obtain ⟨last, t, run, open', ended⟩ := later
  refine ⟨last ++ newer, t, ?_, ?_, ended⟩
  · rw [List.append_assoc]
    exact run
  · intro m member
    rcases List.mem_append.mp member with late | early
    · exact open' m late
    · exact open_ m early

/-- A stream whose threads are at their ends is joined, and no other is opened. -/
theorem canEnd_joins (run : Runs (machine E) past s) (down : s.shutdown = true) (idle : s.connecting = false)
    {st : Stream E} (present : s.client.stream = some st) (ended : st.ended = true) : CanEnd past := by
  have joined : ∃ t, burst (machine E) s [.Live .Join, .Begins] = .ok (t, []) ∧ t.ended = true := by
    obtain ⟨⟨queue, stream⟩, cancelled, connecting, shutdown, finished⟩ := s
    obtain ⟨dead, received, reading, watching, writer⟩ := st
    cases present
    cases down
    cases idle
    cases reading <;> cases watching <;> cases writer <;> simp [Stream.ended] at ended
    cases finished <;> exact ⟨_, rfl, rfl⟩
  obtain ⟨t, done, finished⟩ := joined
  obtain ⟨newer, run', open_⟩ := burst_open run done (by simp)
  exact ⟨newer, t, run', open_, finished⟩

/-- A stream on which nobody waits for the gateway comes to its end. -/
theorem canEnd_stream (run : Runs (machine E) past s) (down : s.shutdown = true) (free : ¬ Stuck s) {st : Stream E}
    (present : s.client.stream = some st) : CanEnd past := by
  have tidy := tidy_run run
  have idle : s.connecting = false := by
    cases asked : s.connecting with
    | false => rfl
    | true =>
      have none := tidy.idle asked
      rw [present] at none
      cases none
  obtain ⟨dead, as, halts⟩ := threads_end s st down present
  obtain ⟨newer, run', open_⟩ := burst_open run halts (by simp)
  refine canEnd_after open_ ?_
  by_cases reading : st.reading = true
  · have cancelled : (s.cancelled || givesUp true st) = true := by
      by_contra none
      rw [Bool.not_eq_true, Bool.or_eq_false_iff] at none
      obtain ⟨quiet, keeps⟩ := none
      have unread : st.readReceived = false := by
        by_contra received
        exact free ⟨quiet, st, present, reading, by simpa using received⟩
      have ended : st.watching = false := by simpa [givesUp, unread] using keeps
      have received := tidy.heard st present quiet ended
      rw [unread] at received
      cases received
    -- the reader returns from the stream that was cancelled
    have stopped := run'.step (i := .Live (.ReadReturns false)) rfl
    refine canEnd_after (List.forall_mem_singleton.mpr fun _ => cancelled) (canEnd_joins stopped down idle rfl ?_)
    rw [reading]
    rfl
  · rw [Bool.not_eq_true] at reading
    refine canEnd_joins run' down idle rfl ?_
    rw [reading]
    rfl

/-- Where the reader does not wait for the gateway, the threads come to their ends under `shutdown_`. -/
theorem canEnd_free (run : Runs (machine E) past s) (down : s.shutdown = true) (free : ¬ Stuck s) : CanEnd past := by
  cases present : s.client.stream with
  | some st => exact canEnd_stream run down free present
  | none =>
    by_cases asked : s.connecting = true
    · have opened : (machine E).step s (.Live .Connect) = .ok ({ s with
          client := ⟨s.client.writeQueue, some .opened⟩, connecting := false, cancelled := false }, []) := by
        simp [machine, step, asked]
      refine canEnd_after (List.forall_mem_singleton.mpr ?_) (canEnd_stream (run.step opened) down ?_ rfl)
      · exact own_open nofun nofun
      · rintro ⟨_, st, own, _, received⟩
        cases own
        cases received
    · by_cases finished : s.ended = true
      · exact ⟨[], s, run, fun m member => absurd member List.not_mem_nil, finished⟩
      · rw [Bool.not_eq_true] at asked finished
        have ends : (machine E).step s .Begins = .ok ({ s with ended := true }, []) := by
          simp [machine, step, present, asked, finished, down]
        exact ⟨[_], _, run.step ends, List.forall_mem_singleton.mpr (own_open nofun nofun), rfl⟩

/-- A client that has come to its end has no stream on which anybody waits. -/
theorem ended_free (run : Runs (machine E) past s) (ended : s.ended = true) : ¬ Stuck s := by
  rintro ⟨_, st, present, _⟩
  have none := ((tidy_run run).finished ended).1
  rw [present] at none
  cases none

/-- Once `shutdown` was called, its threads can come to their ends while the gateway
    leaves the stream open, exactly when the reader is not waiting on a stream on
    which the gateway was heard. -/
theorem shutdown_returns_iff (run : Runs (machine E) past s) (down : s.shutdown = true) :
    CanEnd past ↔ ¬ Stuck s := by
  constructor
  · rintro ⟨newer, t, run', open_, ended⟩ stuck
    exact ended_free run' ended (stuck_run run stuck run' open_)
  · exact canEnd_free run down

end

instance decidableStuck {E : Type} (s : Client E) : Decidable (Stuck s) :=
  decidable_of_iff (s.cancelled = false ∧ s.client.stream.any (fun st => st.reading && st.readReceived) = true) (by
    simp [Stuck, Option.any_eq_true])

/-- The gateway has sent one command and leaves the stream open: `shutdown` waits
    for it. Had it sent none, the watchdog would have given the stream up. -/
theorem shutdown_returns_here :
    (∃ past s, Runs (machine Nat) past s ∧ s.shutdown = true ∧ ¬ CanEnd past) ∧
      ∃ past s, Runs (machine Nat) past s ∧ s.shutdown = true ∧ s.client.stream ≠ none ∧ CanEnd past := by
  constructor
  · obtain ⟨past, s, run, passes⟩ := exists_run (M := machine Nat) (s := ⟨⟨[], none⟩, false, false, false, false⟩)
      ([.Begins, .Live .Connect, .Live (.ReadReturns true), .Shutdown, .Live (.Watch false)]) rfl
      (fun _ s => decide (s.shutdown = true ∧ Stuck s)) (by decide +kernel)
    obtain ⟨down, stuck⟩ := of_decide_eq_true passes
    exact ⟨past, s, run, down, fun ends => (shutdown_returns_iff run down).mp ends stuck⟩
  · obtain ⟨past, s, run, passes⟩ := exists_run (M := machine Nat) (s := ⟨⟨[], none⟩, false, false, false, false⟩)
      ([.Begins, .Live .Connect, .Shutdown]) rfl
      (fun _ s => decide (s.shutdown = true ∧ s.client.stream ≠ none ∧ ¬ Stuck s)) (by decide +kernel)
    obtain ⟨down, opened, free⟩ := of_decide_eq_true passes
    exact ⟨past, s, run, down, opened, (shutdown_returns_iff run down).mpr free⟩

end AutowareAgent.StreamLife
