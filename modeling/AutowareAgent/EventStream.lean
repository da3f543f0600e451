import AutowareAgent.Machines

/-!
`VehicleGatewayStreamClient`, the side that sends: the queue of events that
outlives the streams, and for each stream its reader, its watchdog and its
writer, which takes an event off the queue before it writes it. The runs are
those before `shutdown`. A step is what a thread does between two points where
others may come in; the lock of the queue makes one step of the test and the pop.
-/
namespace AutowareAgent.EventStream
open AutowareAgent.Machines

/-- Where a writer is: at the condition of its loop, waiting for an event, with
    an event in its hand until `Write` returns, or at its end. -/
inductive Writer (E : Type)
  | Top
  | Waiting
  | Holding (ev : E)
  | Done
  deriving DecidableEq, Repr

/-- One turn of `run_stream`: its flags and its threads. -/
structure Stream (E : Type) where
  streamDead : Bool
  readReceived : Bool
  reading : Bool
  watching : Bool
  writer : Writer E
  deriving DecidableEq, Repr

structure StreamClient (E : Type) where
  writeQueue : List E
  stream : Option (Stream E)
  deriving DecidableEq, Repr

/-- What happens next: an event is enqueued, `run_with_reconnect` opens a stream,
    `Read` returns, the watchdog has slept, the writer reaches its loop's
    condition, its wait returns, its `Write` returns, the threads are joined. -/
inductive Turn (E : Type)
  | Enqueue (ev : E)
  | Connect
  | ReadReturns (ok : Bool)
  | Watch (deadlinePassed : Bool)
  | WriterTop
  | WaitReturns
  | WriteReturns (ok : Bool)
  | Join
  deriving DecidableEq, Repr

/-- A `Write` that has returned. -/
structure Attempt (E : Type) where
  ev : E
  ok : Bool
  deriving DecidableEq, Repr

section
variable {E : Type}

/-- A stream as `run_stream` opens it. -/
def Stream.opened : Stream E := ⟨false, false, true, true, .Top⟩

/-- `Read` returns a command, or the stream has ended. -/
def Stream.readReturns (ok : Bool) (st : Stream E) : Stream E :=
  if st.reading then
    if ok then { st with readReceived := true } else { st with reading := false, streamDead := true }
  else st

/-- The watchdog returns once something was read, and gives the stream up at its deadline. -/
def Stream.watch (deadlinePassed : Bool) (st : Stream E) : Stream E :=
  if st.watching then
    if st.readReceived then { st with watching := false }
    else if deadlinePassed then { st with watching := false, streamDead := true }
    else st
  else st

/-- The condition of the writer's loop. -/
def Stream.writerTop (st : Stream E) : Stream E :=
  if st.writer matches .Top then { st with writer := if st.streamDead then .Done else .Waiting } else st

/-- The writer's wait is over: it stops, goes around, or pops an event. -/
def waitReturns (queue : List E) (st : Stream E) : List E × Stream E :=
  match st.writer with
  | .Waiting =>
    if st.streamDead then (queue, { st with writer := .Done })
    else
      match queue with
      | [] => (queue, { st with writer := .Top })
      | ev :: rest => (rest, { st with writer := .Holding ev })
  | _ => (queue, st)

/-- The writer's `Write` returns; a failure ends the stream. -/
def Stream.writeReturns (ok : Bool) (st : Stream E) : Stream E × List (Attempt E) :=
  match st.writer with
  | .Holding ev =>
    (if ok then { st with writer := .Top } else { st with writer := .Done, streamDead := true }, [⟨ev, ok⟩])
  | _ => (st, [])

/-- The threads of the stream have come to their ends. -/
def Stream.ended (st : Stream E) : Bool := !st.reading && !st.watching && st.writer matches .Done

/-- One step; what does not apply changes nothing. -/
def step (s : StreamClient E) : Turn E → Except Empty (StreamClient E × List (Attempt E))
  | .Enqueue ev => .ok ({ s with writeQueue := s.writeQueue ++ [ev] }, [])
  | .Connect => .ok (if s.stream.isNone then { s with stream := some .opened } else s, [])
  | .ReadReturns ok => .ok ({ s with stream := s.stream.map (Stream.readReturns ok) }, [])
  | .Watch deadlinePassed => .ok ({ s with stream := s.stream.map (Stream.watch deadlinePassed) }, [])
  | .WriterTop => .ok ({ s with stream := s.stream.map Stream.writerTop }, [])
  | .WaitReturns =>
    match s.stream with
    | some st => .ok (⟨(waitReturns s.writeQueue st).1, some (waitReturns s.writeQueue st).2⟩, [])
    | none => .ok (s, [])
  | .WriteReturns ok =>
    match s.stream with
    | some st => .ok ({ s with stream := some (st.writeReturns ok).1 }, (st.writeReturns ok).2)
    | none => .ok (s, [])
  | .Join => .ok (if s.stream.any Stream.ended then { s with stream := none } else s, [])

/-- The client's machine, from its construction on. -/
def machine (E : Type) : Machine (StreamClient E) (Turn E) (Attempt E) Empty where
  Start s := s = ⟨[], none⟩
  step := step

/-! ### Every event is somewhere -/

/-- The event in a writer's hand. -/
def Writer.held : Writer E → List E
  | .Holding ev => [ev]
  | _ => []

def held (s : StreamClient E) : List E :=
  match s.stream with
  | some st => st.writer.held
  | none => []

/-- The events that a step enqueues. -/
def Turn.enqueues : Turn E → List E
  | .Enqueue ev => [ev]
  | _ => []

/-- The events ever enqueued, in their order. -/
def enqueued (past : History (StreamClient E) (Turn E) (Attempt E)) : List E :=
  past.reverse.flatMap fun m => m.input.enqueues

/-- The `Write` calls that have returned, in their order. -/
def attempts (past : History (StreamClient E) (Turn E) (Attempt E)) : List (Attempt E) :=
  past.reverse.flatMap fun m => m.outputs

/-- The events successfully written, over all streams in order. -/
def written (past : History (StreamClient E) (Turn E) (Attempt E)) : List E :=
  ((attempts past).filter Attempt.ok).map Attempt.ev

/-- A `Write` returns false. -/
def WriteFails (m : Moment (StreamClient E) (Turn E) (Attempt E)) : Prop :=
  m.input = .WriteReturns false ∧ held m.pre ≠ []

/-- What the writer does with its hand and the queue. -/
theorem waitReturns_held (queue : List E) (st : Stream E) :
    (waitReturns queue st).2.writer.held ++ (waitReturns queue st).1 = st.writer.held ++ queue := by
  unfold waitReturns
  split
  · rename_i waiting
    split
    · simp [waiting, Writer.held]
    · split <;> simp [waiting, Writer.held]
  · rfl

theorem writeReturns_held (ok : Bool) (st : Stream E) :
    (st.writeReturns ok).2.map Attempt.ev ++ (st.writeReturns ok).1.writer.held = st.writer.held := by
  unfold Stream.writeReturns
  split
  · rename_i holding
    cases ok <;> simp [holding, Writer.held]
  · rfl

/-- The readers, watchdogs and loop conditions leave the writer's hand alone. -/
theorem threads_held (st : Stream E) (b : Bool) :
    (st.readReturns b).writer.held = st.writer.held ∧ (st.watch b).writer.held = st.writer.held ∧
      st.writerTop.writer.held = st.writer.held := by
  refine ⟨?_, ?_, ?_⟩
  · unfold Stream.readReturns
    split
    · split <;> rfl
    · rfl
  · unfold Stream.watch
    split
    · split
      · rfl
      · split <;> rfl
    · rfl
  · unfold Stream.writerTop
    cases writer : st.writer <;> simp [writer, Writer.held]
    cases st.streamDead <;> rfl

/-- A writer at its end holds nothing. -/
theorem ended_held {st : Stream E} (ended : st.ended = true) : st.writer.held = [] := by
  unfold Stream.ended at ended
  cases writer : st.writer <;> simp [writer, Writer.held] at ended ⊢

/-- A step moves events from the caller to the queue, to the hand, to `Write`. -/
theorem step_accounts {s s' : StreamClient E} {i : Turn E} {as : List (Attempt E)} (stepped : step s i = .ok (s', as)) :
    as.map Attempt.ev ++ (held s' ++ s'.writeQueue) = held s ++ s.writeQueue ++ i.enqueues := by
  obtain ⟨queue, stream⟩ := s
  cases i with
  | Enqueue ev =>
    cases stepped
    simp [held, Turn.enqueues]
  | Connect =>
    cases stepped
    cases stream <;> simp [held, Turn.enqueues, Stream.opened, Writer.held]
  | ReadReturns ok =>
    cases stepped
    cases stream <;> simp [held, Turn.enqueues, (threads_held _ ok).1]
  | Watch deadlinePassed =>
    cases stepped
    cases stream <;> simp [held, Turn.enqueues, (threads_held _ deadlinePassed).2.1]
  | WriterTop =>
    cases stepped
    cases stream <;> simp [held, Turn.enqueues, (threads_held _ true).2.2]
  | WaitReturns =>
    cases stream with
    | none => cases stepped; simp [Turn.enqueues]
    | some st => cases stepped; simpa [held, Turn.enqueues] using waitReturns_held queue st
  | WriteReturns ok =>
    cases stream with
    | none => cases stepped; simp [Turn.enqueues]
    | some st =>
      cases stepped
      simp only [held, Turn.enqueues, List.append_nil]
      rw [← List.append_assoc, writeReturns_held]
  | Join =>
    cases stepped
    cases stream with
    | none => simp [Turn.enqueues]
    | some st =>
      cases ended : st.ended
      · simp [ended, Turn.enqueues]
      · simp [ended, held, Turn.enqueues, ended_held ended]

theorem attempts_account {past : History (StreamClient E) (Turn E) (Attempt E)} {s : StreamClient E}
    (run : Runs (machine E) past s) : (attempts past).map Attempt.ev ++ (held s ++ s.writeQueue) = enqueued past := by
  refine run.invariant
    (I := fun past s => (attempts past).map Attempt.ev ++ (held s ++ s.writeQueue) = enqueued past) ?_ ?_
  · rintro s rfl
    rfl
  · intro past s i as s' _ accounts stepped
    have moved := step_accounts stepped
    calc (attempts (⟨s, i, as, s'⟩ :: past)).map Attempt.ev ++ (held s' ++ s'.writeQueue)
        = (attempts past).map Attempt.ev ++ (as.map Attempt.ev ++ (held s' ++ s'.writeQueue)) := by
          simp [attempts]
      _ = ((attempts past).map Attempt.ev ++ (held s ++ s.writeQueue)) ++ i.enqueues := by
          rw [moved]
          simp only [List.append_assoc]
      _ = enqueued (⟨s, i, as, s'⟩ :: past) := by
          rw [accounts]
          simp [enqueued]

/-- A failed attempt is a failed `Write`. -/
theorem failed_iff {s s' : StreamClient E} {i : Turn E} {as : List (Attempt E)} (stepped : step s i = .ok (s', as)) :
    (∀ a ∈ as, a.ok = true) ↔ ¬ WriteFails ⟨s, i, as, s'⟩ := by
  obtain ⟨queue, stream⟩ := s
  cases i with
  | WriteReturns ok =>
    cases stream with
    | none => cases stepped; simp [WriteFails, held]
    | some st =>
      cases stepped
      unfold Stream.writeReturns
      cases writer : st.writer <;> cases ok <;> simp [WriteFails, held, writer, Writer.held]
  | WaitReturns => cases stream <;> cases stepped <;> simp [WriteFails]
  | _ => cases stepped; simp [WriteFails]

theorem attempts_ok_iff {past : History (StreamClient E) (Turn E) (Attempt E)} {s : StreamClient E}
    (run : Runs (machine E) past s) : (∀ a ∈ attempts past, a.ok = true) ↔ ∀ m ∈ past, ¬ WriteFails m := by
  induction run with
  | start _ => simp [attempts]
  | @step past s s' i as earlier stepped ih =>
    rw [List.forall_mem_cons, ← failed_iff stepped, ← ih]
    simp only [attempts, List.reverse_cons, List.flatMap_append, List.flatMap_singleton, List.mem_append, or_imp,
      forall_and]
    exact and_comm

/-- In every run no event is lost, duplicated or reordered exactly when no
    `Write` has failed. -/
theorem no_event_lost_iff {past : History (StreamClient E) (Turn E) (Attempt E)} {s : StreamClient E}
    (run : Runs (machine E) past s) :
    written past ++ held s ++ s.writeQueue = enqueued past ↔ ∀ m ∈ past, ¬ WriteFails m := by
  rw [← attempts_account run, List.append_assoc, List.append_left_inj, ← attempts_ok_iff run, written]
  constructor
  · intro same
    have length := congrArg List.length same
    rw [List.length_map, List.length_map] at length
    exact List.length_filter_eq_length_iff.mp length
  · intro all
    rw [List.filter_eq_self.mpr all]

end

/-- Two events over one stream. -/
theorem no_event_lost_on_one_stream : ∃ past s, Runs (machine Nat) past s ∧ written past = [7, 8] ∧
    (written past ++ held s ++ s.writeQueue = enqueued past ↔ ∀ m ∈ past, ¬ WriteFails m) := by
  obtain ⟨past, s, run, done⟩ := exists_run (M := machine Nat) (s := ⟨[], none⟩)
    ([.Enqueue 7, .Connect, .ReadReturns true, .WriterTop, .WaitReturns, .Enqueue 8, .WriteReturns true,
      .WriterTop, .WaitReturns, .WriteReturns true]) rfl
    (fun past _ => decide (written past = [7, 8])) (by decide +kernel)
  exact ⟨past, s, run, by simpa using done, no_event_lost_iff run⟩

/-- The stream breaks while the writer has an event in its hand: the next stream
    goes on with the event after it. -/
theorem event_lost : ∃ past s, Runs (machine Nat) past s ∧
    written past ++ held s ++ s.writeQueue ≠ enqueued past := by
  obtain ⟨past, s, run, lost⟩ := exists_run (M := machine Nat) (s := ⟨[], none⟩)
    ([.Enqueue 7, .Enqueue 8, .Connect, .ReadReturns true, .WriterTop, .WaitReturns, .WriteReturns false,
      .ReadReturns false, .Watch false, .Join, .Connect, .WriterTop, .WaitReturns, .WriteReturns true]) rfl
    (fun past s => decide (written past ++ held s ++ s.writeQueue ≠ enqueued past)) (by decide +kernel)
  exact ⟨past, s, run, by simpa using lost⟩

end AutowareAgent.EventStream
