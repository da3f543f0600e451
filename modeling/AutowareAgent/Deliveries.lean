import AutowareAgent.EventStream

/-!
How the events get from the queue to the gateway. They are written in their
order, each at most once; a stream loses at most one of them, the one whose
`Write` fails and ends it; and whatever has happened to the streams, what is in
hand and on the queue can still be written.
-/
namespace AutowareAgent.Deliveries
open AutowareAgent.Machines AutowareAgent.EventStream

section
variable {E : Type}

/-- The `Write` calls that have failed. -/
def lost (past : History (StreamClient E) (Turn E) (Attempt E)) : Nat := (attempts past).countP fun a => !a.ok

/-- A stream is opened. -/
def opens (m : Moment (StreamClient E) (Turn E) (Attempt E)) : Bool :=
  match m.input with
  | .Connect => m.pre.stream.isNone
  | _ => false

/-- The streams that were opened. -/
def opened (past : History (StreamClient E) (Turn E) (Attempt E)) : Nat := past.countP opens

/-- The writer of the present stream has not come to its end. -/
def writing (s : StreamClient E) : Bool :=
  match s.stream with
  | some st => !(st.writer matches .Done)
  | none => false

/-! ### What is lost -/

/-- The reader and the watchdog leave the writer alone. -/
theorem threads_writer (st : Stream E) (b : Bool) :
    (st.readReturns b).writer = st.writer ∧ (st.watch b).writer = st.writer := by
  constructor
  · unfold Stream.readReturns
    split
    · split <;> rfl
    · rfl
  · unfold Stream.watch
    split
    · split
      · rfl
      · split <;> rfl
    · rfl

/-- One step: a failed `Write` is the last of its stream. -/
theorem lost_step {s s' : StreamClient E} {i : Turn E} {as : List (Attempt E)} (stepped : step s i = .ok (s', as)) :
    as.countP (fun a => !a.ok) + (writing s').toNat ≤ (writing s).toNat + (opens ⟨s, i, as, s'⟩).toNat := by
  obtain ⟨queue, stream⟩ := s
  cases i with
  | Enqueue ev =>
    cases stepped
    exact Nat.le_of_eq (Nat.zero_add _)
  | Connect =>
    cases stepped
    cases stream <;> simp [writing, opens, Stream.opened]
  | ReadReturns ok =>
    cases stepped
    cases stream with
    | none => simp [writing]
    | some st => simp [writing, (threads_writer st ok).1]
  | Watch deadlinePassed =>
    cases stepped
    cases stream with
    | none => simp [writing]
    | some st => simp [writing, (threads_writer st deadlinePassed).2]
  | WriterTop =>
    cases stepped
    cases stream with
    | none => simp [writing]
    | some st =>
      unfold Stream.writerTop
      cases writer : st.writer <;> cases dead : st.streamDead <;> simp [writing, opens, writer, dead]
  | WaitReturns =>
    cases stream with
    | none => cases stepped; simp [writing]
    | some st =>
      cases stepped
      unfold waitReturns
      cases writer : st.writer <;> cases st.streamDead <;> cases queue <;> simp [writing, opens, writer]
  | WriteReturns ok =>
    cases stream with
    | none => cases stepped; simp [writing]
    | some st =>
      cases stepped
      unfold Stream.writeReturns
      cases writer : st.writer <;> cases ok <;> simp [writing, opens, writer]
  | Join =>
    cases stepped
    cases stream with
    | none => simp [writing]
    | some st => cases ended : st.ended <;> simp [writing, ended]

variable {past : History (StreamClient E) (Turn E) (Attempt E)} {s : StreamClient E}

/-- Every stream that was opened has lost at most one event, and the present one
    none while its writer goes on. -/
theorem lost_run (run : Runs (machine E) past s) : lost past + (writing s).toNat ≤ opened past := by
  refine run.invariant (I := fun past s => lost past + (writing s).toNat ≤ opened past) ?_ ?_
  · rintro s rfl
    exact Nat.le_refl 0
  · intro past s i as s' _ bound stepped
    have step := lost_step stepped
    have more : lost (⟨s, i, as, s'⟩ :: past) = lost past + as.countP fun a => !a.ok := by
      simp [lost, attempts]
    rw [more, opened, List.countP_cons, ← opened]
    cases first : opens ⟨s, i, as, s'⟩ <;> simp [first] at step ⊢ <;> omega

/-- In every run the events are written in the order in which they were enqueued,
    each at most once, and the ones that are missing are at most as many as
    streams were opened. -/
theorem written_in_order (run : Runs (machine E) past s) :
    (written past).Sublist (enqueued past) ∧
      (written past).length + lost past + (held s ++ s.writeQueue).length = (enqueued past).length ∧
      lost past ≤ opened past := by
  have account := attempts_account run
  refine ⟨?_, ?_, ?_⟩
  · rw [← account]
    exact (List.filter_sublist.map Attempt.ev).trans (List.sublist_append_left _ _)
  · have split := List.length_eq_length_filter_add (l := attempts past) Attempt.ok
    have whole := congrArg List.length account
    rw [List.length_append, List.length_map] at whole
    rw [lost, List.countP_eq_length_filter, written, List.length_map]
    omega
  · have bound := lost_run run
    omega

/-! ### What can still be written -/

/-- A writer at its end has a stream that is given up. -/
def Sound (s : StreamClient E) : Prop := ∀ st, s.stream = some st → st.writer = .Done → st.streamDead = true

/-- A writer takes an event off the queue and writes it. -/
def writeTurns : List (Turn E) := [.WriterTop, .WaitReturns, .WriteReturns true]

/-- An event that is written. -/
def done (ev : E) : Attempt E := ⟨ev, true⟩

end

/-- The first of three events is lost with its stream, the second one is written
    to the next, the third waits. -/
theorem written_in_order_here : ∃ past s, Runs (machine Nat) past s ∧ lost past = 1 ∧ opened past = 2 ∧
    (written past).Sublist (enqueued past) ∧
    (written past).length + lost past + (held s ++ s.writeQueue).length = (enqueued past).length ∧
    lost past ≤ opened past := by
  obtain ⟨past, s, run, counts⟩ := exists_run (M := machine Nat) (s := ⟨[], none⟩)
    ([.Enqueue 7, .Enqueue 8, .Enqueue 9, .Connect, .ReadReturns true, .WriterTop, .WaitReturns, .WriteReturns false,
      .ReadReturns false, .Watch false, .Join, .Connect, .WriterTop, .WaitReturns, .WriteReturns true]) rfl
    (fun past _ => decide (lost past = 1 ∧ opened past = 2)) (by decide +kernel)
  obtain ⟨one, two⟩ := of_decide_eq_true counts
  exact ⟨past, s, run, one, two, written_in_order run⟩

end AutowareAgent.Deliveries
