import AutowareAgent.Machines

/-!
The timer and the shutdown that all bridges share. The constructor posts
`scheduleNextTick`; the handler of the timer returns when its wait was cancelled,
and else publishes a frame and arms the timer again. `shutdown` cancels the timer,
gives up the work guard and joins the thread, which ends when nothing is left to do.
A wait that has expired can no longer be cancelled, its handler is already queued.
-/
namespace AutowareAgent.Tickers
open AutowareAgent.Machines

/-- A handler on the strand: `scheduleNextTick`, as the constructor posts it, the
    handler of the timer, after its wait has expired or was cancelled, or a message. -/
inductive Handler
  | Schedule
  | Expired
  | Aborted
  | Message
  deriving DecidableEq, Repr

/-- What a bridge has to do: its queued handlers, the wait of its timer and its work
    guard; and whether `io_context_.run` has returned. -/
structure Bridge where
  handlers : List Handler
  armed : Bool
  guarded : Bool
  ended : Bool
  deriving DecidableEq, Repr

/-- What happens next: a message is posted, the wait expires, the strand takes its
    next handler, `shutdown` cancels the timer and then resets the guard, the thread
    finds nothing left to do. -/
inductive Turn
  | Posts
  | Expires
  | Runs
  | Cancel
  | Reset
  | Ends
  deriving DecidableEq, Repr

/-- A tick, and with it a frame; the location bridge's only while it streams. -/
inductive Effect
  | Frame
  deriving DecidableEq, Repr

/-- The wait of the timer is over, for one reason or another. -/
def Bridge.completes (b : Bridge) (handler : Handler) : Bridge :=
  if b.armed then { b with armed := false, handlers := b.handlers ++ [handler] } else b

/-- `scheduleNextTick`. Setting the time cancels a wait that is under way. -/
def Bridge.scheduleNextTick (b : Bridge) : Bridge := { b.completes .Aborted with armed := true }

/-- What a handler does. -/
def Handler.run (b : Bridge) : Handler → Bridge × List Effect
  | .Schedule => (b.scheduleNextTick, [])
  | .Expired => (b.scheduleNextTick, [.Frame])
  | .Aborted | .Message => (b, [])

def step (b : Bridge) : Turn → Except Empty (Bridge × List Effect)
  | .Posts => .ok ({ b with handlers := b.handlers ++ [.Message] }, [])
  | .Expires => .ok (b.completes .Expired, [])
  | .Cancel => .ok (b.completes .Aborted, [])
  | .Reset => .ok ({ b with guarded := false }, [])
  | .Runs =>
    match b.handlers with
    | [] => .ok (b, [])
    | handler :: rest => .ok (if b.ended then (b, []) else handler.run { b with handlers := rest })
  | .Ends => .ok (if b.guarded || b.armed || !b.handlers.isEmpty then b else { b with ended := true }, [])

/-- A bridge's machine, from the end of its constructor on. -/
def machine : Machine Bridge Turn Effect Empty where
  Start b := b = ⟨[.Schedule], false, true, false⟩
  step := step

/-- The bridge's runs. -/
abbrev Past := History Bridge Turn Effect

/-- A cancel that finds the timer waiting. -/
def Hits (m : Moment Bridge Turn Effect) : Prop := m.input = .Cancel ∧ m.pre.armed = true

instance (m : Moment Bridge Turn Effect) : Decidable (Hits m) := inferInstanceAs (Decidable (_ ∧ _))

/-- Without another cancel the thread comes to its end. -/
def CanJoin (past : Past) : Prop :=
  ∃ newer b, Runs machine (newer ++ past) b ∧ (∀ m ∈ newer, m.input ≠ .Cancel) ∧ b.ended = true

/-- Without another cancel a frame is published. -/
def CanPublish (past : Past) : Prop :=
  ∃ newer b, Runs machine (newer ++ past) b ∧ (∀ m ∈ newer, m.input ≠ .Cancel) ∧ .Frame ∈ outputs newer

/-! ### The chain of ticks -/

/-- A handler that will arm the timer. -/
def Handler.arms : Handler → Bool
  | .Schedule | .Expired => true
  | .Aborted | .Message => false

/-- What keeps the bridge ticking: the wait of its timer, and the handlers that will arm it. -/
def pulse (b : Bridge) : Nat := b.armed.toNat + b.handlers.countP Handler.arms

theorem completes_pulse (b : Bridge) (handler : Handler) :
    pulse (b.completes handler) + (b.armed && !handler.arms).toNat = pulse b := by
  unfold Bridge.completes
  cases armed : b.armed with
  | false => rfl
  | true => cases arms : handler.arms <;> simp [pulse, armed, arms, List.countP_append] <;> omega

/-- A handler that arms the timer is the only one that does. -/
theorem run_pulse {b : Bridge} {handler : Handler} (one : pulse b + handler.arms.toNat ≤ 1) :
    pulse (handler.run b).1 = pulse b + handler.arms.toNat := by
  have arming : pulse b + 1 ≤ 1 → pulse b.scheduleNextTick = pulse b + 1 := by
    intro none
    have idle : b.armed = false := by
      cases armed : b.armed with
      | false => rfl
      | true =>
        simp only [pulse, armed, Bool.toNat_true] at none
        omega
    simp [pulse, Bridge.scheduleNextTick, Bridge.completes, idle, Nat.add_comm]
  cases handler with
  | Schedule | Expired => exact arming one
  | Aborted | Message => rfl

/-- The strand takes its next handler. -/
theorem runs_step {b : Bridge} {handler : Handler} {rest : List Handler} (queue : b.handlers = handler :: rest)
    (going : b.ended = false) : step b .Runs = .ok (handler.run { b with handlers := rest }) := by
  simp [step, queue, going]

/-- Only a cancel that finds the timer waiting stops the chain. -/
theorem pulse_step {b b' : Bridge} {i : Turn} {fs : List Effect} (stepped : step b i = .ok (b', fs))
    (one : pulse b ≤ 1) : pulse b' + (decide (Hits ⟨b, i, fs, b'⟩)).toNat = pulse b := by
  cases i with
  | Posts =>
    cases stepped
    simp [pulse, Hits, Handler.arms, List.countP_append]
  | Expires =>
    cases stepped
    have kept := completes_pulse b .Expired
    simpa [Hits, Handler.arms] using kept
  | Cancel =>
    cases stepped
    have kept := completes_pulse b .Aborted
    simpa [Hits, Handler.arms] using kept
  | Reset =>
    cases stepped
    simp [pulse, Hits]
  | Ends =>
    cases stepped
    split <;> simp [pulse, Hits]
  | Runs =>
    obtain ⟨handlers, armed, guarded, ended⟩ := b
    cases handlers with
    | nil => cases stepped; simp [Hits]
    | cons handler rest =>
      cases ended with
      | true => cases stepped; simp [Hits]
      | false =>
        have split : pulse ⟨handler :: rest, armed, guarded, false⟩ =
            pulse ⟨rest, armed, guarded, false⟩ + handler.arms.toNat := by
          cases arms : handler.arms <;> simp [pulse, arms, Nat.add_assoc]
        have moved : (handler.run ⟨rest, armed, guarded, false⟩).1 = b' := congrArg Prod.fst (Except.ok.inj stepped)
        rw [split] at one ⊢
        rw [← moved, run_pulse one]
        simp [Hits]

theorem completes_keeps (b : Bridge) (handler : Handler) :
    (b.completes handler).guarded = b.guarded ∧ (b.completes handler).ended = b.ended := by
  unfold Bridge.completes
  split <;> exact ⟨rfl, rfl⟩

/-- A handler leaves the guard, and does not end the thread. -/
theorem run_keeps (b : Bridge) (handler : Handler) :
    (handler.run b).1.guarded = b.guarded ∧ (handler.run b).1.ended = b.ended := by
  cases handler <;> first | exact completes_keeps b .Aborted | exact ⟨rfl, rfl⟩

/-- A guard that was given up stays so. -/
theorem unguarded_step {b b' : Bridge} {i : Turn} {fs : List Effect} (stepped : step b i = .ok (b', fs))
    (free : i = .Reset ∨ b.guarded = false) : b'.guarded = false := by
  cases i with
  | Reset => cases stepped; rfl
  | Posts => cases stepped; exact free.resolve_left nofun
  | Expires | Cancel => cases stepped; exact (completes_keeps _ _).1.trans (free.resolve_left nofun)
  | Ends => cases stepped; split <;> exact free.resolve_left nofun
  | Runs =>
    have own := free.resolve_left nofun
    cases queue : b.handlers with
    | nil =>
      simp only [step, queue] at stepped
      cases stepped
      exact own
    | cons handler rest =>
      simp only [step, queue] at stepped
      split at stepped
      · cases stepped
        exact own
      · have left : (handler.run { b with handlers := rest }).1 = b' := congrArg Prod.fst (Except.ok.inj stepped)
        rw [← left, (run_keeps _ _).1]
        exact own

theorem start_one (b b' : Bridge) (first : machine.Start b) (first' : machine.Start b') : b = b' :=
  first.trans first'.symm

variable {past : Past} {b : Bridge}

/-- One wait or one arming handler keeps the bridge ticking until a cancel finds the timer waiting. -/
theorem pulse_run (run : Runs machine past b) : pulse b + past.countP (fun m => Hits m) = 1 := by
  refine run.invariant (I := fun past b => pulse b + past.countP (fun m => Hits m) = 1) ?_ ?_
  · rintro b rfl
    rfl
  · intro past b i fs b' _ ih stepped
    have kept := pulse_step stepped (by omega)
    rw [List.countP_cons]
    by_cases hits : Hits ⟨b, i, fs, b'⟩
    · simp only [hits, decide_true, Bool.toNat_true, if_true] at kept ⊢
      omega
    · simp only [hits, decide_false, Bool.toNat_false] at kept ⊢
      simp
      omega

theorem pulse_zero_iff (run : Runs machine past b) : pulse b = 0 ↔ ∃ m ∈ past, Hits m := by
  have counted := pulse_run run
  have found : 0 < past.countP (fun m => Hits m) ↔ ∃ m ∈ past, Hits m := by simp [List.countP_pos_iff]
  rw [← found]
  omega

/-- Once the thread has ended there is nothing that ticks. -/
theorem ended_pulse (run : Runs machine past b) : b.ended = true → pulse b = 0 := by
  refine run.invariant (I := fun _ b => b.ended = true → pulse b = 0) ?_ ?_
  · rintro b rfl ended
    cases ended
  · intro past b i fs b' earlier ih stepped ended
    have one := pulse_run earlier
    have kept := pulse_step stepped (by omega)
    by_cases before : b.ended = true
    · have zero := ih before
      omega
    · have idle : b'.armed = false ∧ b'.handlers = [] := by
        cases i with
        | Ends =>
          cases stepped
          by_cases busy : (b.guarded || b.armed || !b.handlers.isEmpty) = true
          · rw [if_pos busy] at ended
            exact absurd ended before
          · rw [if_neg busy]
            simp only [Bool.or_eq_true, not_or, Bool.not_eq_true, Bool.not_eq_true', Bool.not_eq_false] at busy
            exact ⟨busy.1.2, List.isEmpty_iff.mp busy.2⟩
        | Posts | Reset =>
          cases stepped
          exact absurd ended before
        | Expires | Cancel =>
          cases stepped
          rw [(completes_keeps _ _).2] at ended
          exact absurd ended before
        | Runs =>
          cases queue : b.handlers with
          | nil =>
            simp only [machine, step, queue] at stepped
            cases stepped
            exact absurd ended before
          | cons handler rest =>
            have moved := (runs_step queue (Bool.not_eq_true _ ▸ before)).symm.trans stepped
            have left : (handler.run { b with handlers := rest }).1 = b' := congrArg Prod.fst (Except.ok.inj moved)
            rw [← left, (run_keeps _ _).2] at ended
            exact absurd ended before
      simp [pulse, idle.1, idle.2]

/-! ### Whether `shutdown` returns -/

/-- Handlers that do not arm the timer are taken one after the other. -/
theorem takes (before : List Handler) (idle : before.countP Handler.arms = 0) : ∀ (b : Bridge) (rest : List Handler),
    b.handlers = before ++ rest → b.ended = false →
      burst machine b (List.replicate before.length .Runs) = .ok ({ b with handlers := rest }, []) := by
  induction before with
  | nil =>
    intro b rest queue _
    obtain ⟨handlers, armed, guarded, ended⟩ := b
    subst queue
    rfl
  | cons handler before ih =>
    intro b rest queue going
    have quiet : handler.arms = false ∧ before.countP Handler.arms = 0 := by
      cases arms : handler.arms <;> simp_all
    have ran : handler.run { b with handlers := before ++ rest } = ({ b with handlers := before ++ rest }, []) := by
      cases handler <;> first | rfl | cases quiet.1
    have stepped : machine.step b .Runs = .ok ({ b with handlers := before ++ rest }, []) := by
      rw [← ran]
      exact runs_step queue going
    have others := ih quiet.2 { b with handlers := before ++ rest } rest rfl going
    rw [List.length_cons, List.replicate_succ, burst, stepped]
    dsimp only
    rw [others]
    rfl

/-- Turns without a cancel go on with a run. -/
theorem burst_uncancelled {turns : List Turn} {b' : Bridge} {fs : List Effect} (run : Runs machine past b)
    (done : burst machine b turns = .ok (b', fs)) (free : .Cancel ∉ turns) :
    ∃ newer, Runs machine (newer ++ past) b' ∧ (∀ m ∈ newer, m.input ≠ .Cancel) ∧ outputs newer = fs := by
  obtain ⟨newer, run', read, put⟩ := burst_runs run done
  refine ⟨newer, run', fun m member cancels => free ?_, put⟩
  rw [← read, ← cancels]
  exact List.mem_map_of_mem (List.mem_reverse.mpr member)

/-- With nothing that ticks and no guard the thread takes its handlers and ends. -/
theorem ends_of_zero (zero : pulse b = 0) (going : b.ended = false) :
    burst machine { b with guarded := false } (List.replicate b.handlers.length .Runs ++ [.Ends]) =
      .ok (⟨[], false, false, true⟩, []) := by
  obtain ⟨handlers, armed, guarded, done⟩ := b
  cases going
  obtain ⟨idle, quiet⟩ : armed = false ∧ handlers.countP Handler.arms = 0 := by
    cases armed <;> simp [pulse] at zero ⊢
    exact zero
  subst idle
  have taken := takes handlers quiet ⟨handlers, false, false, false⟩ [] (List.append_nil _).symm rfl
  have ends : burst machine ⟨[], false, false, false⟩ [.Ends] = .ok (⟨[], false, false, true⟩, []) := rfl
  exact burst_append taken ends

theorem canJoin_of_zero (run : Runs machine past b) (zero : pulse b = 0) : CanJoin past := by
  cases going : b.ended with
  | true => exact ⟨[], b, run, by simp, going⟩
  | false =>
    have reset : burst machine b [.Reset] = .ok ({ b with guarded := false }, []) := rfl
    obtain ⟨newer, run', free, _⟩ := burst_uncancelled run (burst_append reset (ends_of_zero zero going)) (by simp)
    exact ⟨newer, _, run', free, rfl⟩

/-- A timer that waits expires, and its handler publishes once its turn has come. -/
theorem publishes_armed {handlers : List Handler} {guarded : Bool} (quiet : handlers.countP Handler.arms = 0) :
    burst machine ⟨handlers, true, guarded, false⟩ (.Expires :: List.replicate (handlers.length + 1) .Runs) =
      .ok (⟨[], true, guarded, false⟩, [.Frame]) := by
  have expires : burst machine ⟨handlers, true, guarded, false⟩ [.Expires] =
      .ok (⟨handlers ++ [.Expired], false, guarded, false⟩, []) := rfl
  have taken := takes handlers quiet ⟨handlers ++ [.Expired], false, guarded, false⟩ [.Expired] rfl rfl
  have ticks : burst machine ⟨[.Expired], false, guarded, false⟩ [.Runs] = .ok (⟨[], true, guarded, false⟩, [.Frame]) := rfl
  have whole := burst_append (burst_append expires taken) ticks
  rwa [List.append_assoc, ← List.replicate_succ'] at whole

/-- The one handler that arms the timer has its turn, behind others that do not. -/
theorem arms_of_one (one : pulse b = 1) (going : b.ended = false) : ∃ count handlers frames,
    burst machine b (List.replicate count .Runs) = .ok (⟨handlers, true, b.guarded, false⟩, frames) ∧
      handlers.countP Handler.arms = 0 := by
  obtain ⟨handlers, armed, guarded, done⟩ := b
  cases going
  cases armed with
  | true =>
    refine ⟨0, handlers, [], rfl, ?_⟩
    simp only [pulse, Bool.toNat_true] at one
    omega
  | false =>
    obtain ⟨handler, member, arms⟩ : ∃ handler ∈ handlers, handler.arms = true := by
      simpa [pulse] using List.countP_pos_iff.mp (show 0 < handlers.countP Handler.arms by
        simp only [pulse, Bool.toNat_false] at one
        omega)
    obtain ⟨before, rest, rfl⟩ := List.append_of_mem member
    have quiet : before.countP Handler.arms = 0 ∧ rest.countP Handler.arms = 0 := by
      simp only [pulse, Bool.toNat_false, List.countP_append, List.countP_cons, arms, if_true] at one
      omega
    have taken := takes before quiet.1 ⟨before ++ handler :: rest, false, guarded, false⟩ (handler :: rest) rfl rfl
    have armed : ∃ frames, burst machine ⟨handler :: rest, false, guarded, false⟩ [.Runs] =
        .ok (⟨rest, true, guarded, false⟩, frames) := by
      cases handler with
      | Schedule | Expired => exact ⟨_, rfl⟩
      | Aborted | Message => cases arms
    obtain ⟨frames, ran⟩ := armed
    have whole := burst_append taken ran
    rw [← List.replicate_succ'] at whole
    exact ⟨_, rest, _, whole, quiet.2⟩

theorem canPublish_of_one (run : Runs machine past b) (one : pulse b = 1) : CanPublish past := by
  have going : b.ended = false := by
    cases ended : b.ended with
    | false => rfl
    | true =>
      have zero := ended_pulse run ended
      omega
  obtain ⟨count, handlers, frames, armed, quiet⟩ := arms_of_one one going
  obtain ⟨newer, b', free, put⟩ := burst_uncancelled run (burst_append armed (publishes_armed quiet)) (by simp)
  exact ⟨newer, _, b', free, by simp [put]⟩

/-- What ticks stays as it is while no cancel comes. -/
theorem pulse_kept (run : Runs machine past b) {newer : Past} {b' : Bridge} (run' : Runs machine (newer ++ past) b')
    (free : ∀ m ∈ newer, m.input ≠ .Cancel) : pulse b' = pulse b := by
  have counted := pulse_run run
  have counted' := pulse_run run'
  have none : newer.countP (fun m => Hits m) = 0 := by
    rw [List.countP_eq_zero]
    intro m member hits
    exact free m member (of_decide_eq_true hits).1
  rw [List.countP_append, none] at counted'
  omega

/-- Without a pulse no frame is published. -/
theorem silent_step {b b' : Bridge} {i : Turn} {fs : List Effect} (stepped : step b i = .ok (b', fs))
    (zero : pulse b = 0) : fs = [] := by
  cases i with
  | Runs =>
    cases queue : b.handlers with
    | nil =>
      simp only [step, queue] at stepped
      cases stepped
      rfl
    | cons handler rest =>
      have idle : handler.arms = false := by
        cases arms : handler.arms with
        | false => rfl
        | true =>
          simp only [pulse, queue, List.countP_cons, arms, if_true] at zero
          omega
      cases ended : b.ended with
      | true =>
        simp only [step, queue, ended, if_true] at stepped
        cases stepped
        rfl
      | false =>
        have out : (handler.run { b with handlers := rest }).2 = fs :=
          congrArg Prod.snd (Except.ok.inj ((runs_step queue ended).symm.trans stepped))
        rw [← out]
        cases handler <;> first | rfl | cases idle
  | _ =>
    cases stepped
    rfl

theorem silent_run (run : Runs machine past b) (zero : pulse b = 0) {newer : Past} : ∀ {b' : Bridge},
    Runs machine (newer ++ past) b' → (∀ m ∈ newer, m.input ≠ .Cancel) → outputs newer = [] := by
  induction newer with
  | nil => exact fun _ _ => rfl
  | cons m newer ih =>
    intro b' run' free
    obtain ⟨earlier, stepped, _⟩ := run'.inv
    obtain ⟨_, others⟩ := List.forall_mem_cons.mp free
    rw [outputs_cons, ih earlier others, silent_step stepped ((pulse_kept run earlier others).trans zero)]
    rfl

/-- In every run, and whatever is still posted, the thread that `shutdown` joins
    comes to its end exactly when a cancel has found the timer waiting. Where each
    cancel came while the handler of the timer was queued or running, or before the
    first wait, the bridge goes on publishing frames, and `shutdown` never returns. -/
theorem joins_iff (run : Runs machine past b) :
    (CanJoin past ↔ ∃ m ∈ past, Hits m) ∧ (CanPublish past ↔ ¬ ∃ m ∈ past, Hits m) := by
  rw [← pulse_zero_iff run]
  constructor
  · constructor
    · rintro ⟨newer, b', run', free, ended⟩
      rw [← pulse_kept run run' free]
      exact ended_pulse run' ended
    · exact canJoin_of_zero run
  · constructor
    · rintro ⟨newer, b', run', free, published⟩ zero
      rw [silent_run run zero run' free] at published
      cases published
    · intro some
      have counted := pulse_run run
      exact canPublish_of_one run (by omega)

/-- The bridge is shut down while its timer waits, and while the handler of the timer is queued. -/
theorem joins_here : (∃ past b, Runs machine past b ∧ b.guarded = false ∧ CanJoin past) ∧
    ∃ past b, Runs machine past b ∧ b.guarded = false ∧ ¬ CanJoin past ∧ CanPublish past := by
  constructor
  · obtain ⟨past, b, run, passes⟩ := exists_run (M := machine) (s := ⟨[.Schedule], false, true, false⟩)
      [.Runs, .Posts, .Cancel, .Reset] rfl (fun past b => decide (b.guarded = false ∧ ∃ m ∈ past, Hits m))
      (by decide +kernel)
    obtain ⟨reset, hit⟩ := of_decide_eq_true passes
    exact ⟨past, b, run, reset, (joins_iff run).1.mpr hit⟩
  · obtain ⟨past, b, run, passes⟩ := exists_run (M := machine) (s := ⟨[.Schedule], false, true, false⟩)
      [.Runs, .Expires, .Cancel, .Reset] rfl (fun past b => decide (b.guarded = false ∧ ¬ ∃ m ∈ past, Hits m))
      (by decide +kernel)
    obtain ⟨reset, missed⟩ := of_decide_eq_true passes
    exact ⟨past, b, run, reset, fun joins => missed ((joins_iff run).1.mp joins), (joins_iff run).2.mpr missed⟩

end AutowareAgent.Tickers
