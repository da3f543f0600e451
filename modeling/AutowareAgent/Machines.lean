import Mathlib.Data.List.Basic
import Mathlib.Logic.Relation

/-!
Machines that read inputs, emit outputs and may stop with an error. A run is
kept as its history, the latest moment first, so that a property may speak of
what happened since some earlier moment. Invariants go by induction over runs,
also over the runs whose moments all meet a condition, and one machine refines
another when every step of it is a sequence of steps of the other.
-/
namespace AutowareAgent.Machines
universe u v w x

/-- A machine: the states it may start in, and what an input does to a state. -/
structure Machine (σ : Type u) (ι : Type v) (ο : Type w) (ε : Type x) where
  Start : σ → Prop
  step : σ → ι → Except ε (σ × List ο)

/-- One step that was taken: the states around it, its input and its outputs. -/
structure Moment (σ : Type u) (ι : Type v) (ο : Type w) where
  pre : σ
  input : ι
  outputs : List ο
  post : σ

/-- The moments of a run, the latest first. -/
abbrev History (σ : Type u) (ι : Type v) (ο : Type w) := List (Moment σ ι ο)

section
variable {σ : Type u} {ι : Type v} {ο : Type w} {ε : Type x} {M : Machine σ ι ο ε}

/-- The machine may be in the state with the history behind it. -/
inductive Runs (M : Machine σ ι ο ε) : History σ ι ο → σ → Prop
  | start {s : σ} : M.Start s → Runs M [] s
  | step {past : History σ ι ο} {s s' : σ} {i : ι} {os : List ο} :
      Runs M past s → M.step s i = .ok (s', os) → Runs M (⟨s, i, os, s'⟩ :: past) s'

/-- Some run ends in the state. -/
def Reachable (M : Machine σ ι ο ε) (s : σ) : Prop := ∃ past, Runs M past s

/-- Every moment of a history stands in `P` to the history before it. -/
def Along (P : History σ ι ο → Moment σ ι ο → Prop) : History σ ι ο → Prop
  | [] => True
  | m :: older => P older m ∧ Along P older

@[simp] theorem along_nil (P : History σ ι ο → Moment σ ι ο → Prop) : Along P [] := trivial

@[simp] theorem along_cons (P : History σ ι ο → Moment σ ι ο → Prop) (m : Moment σ ι ο)
    (older : History σ ι ο) : Along P (m :: older) ↔ P older m ∧ Along P older := Iff.rfl

instance decidableAlong (P : History σ ι ο → Moment σ ι ο → Prop) [∀ past m, Decidable (P past m)] :
    (past : History σ ι ο) → Decidable (Along P past)
  | [] => isTrue trivial
  | m :: older =>
    have := decidableAlong P older
    inferInstanceAs (Decidable (P older m ∧ Along P older))

theorem along_forall {P : Moment σ ι ο → Prop} {past : History σ ι ο} :
    Along (fun _ m => P m) past ↔ ∀ m ∈ past, P m := by
  induction past with
  | nil => simp
  | cons m past ih => simp [ih]

/-- The moments of a history after the latest one of a kind. -/
def since (kind : Moment σ ι ο → Bool) (past : History σ ι ο) : History σ ι ο :=
  past.takeWhile fun m => !kind m

section
variable {kind : Moment σ ι ο → Bool} {m : Moment σ ι ο} {older : History σ ι ο}

theorem since_cons_kind (first : kind m = true) : since kind (m :: older) = [] := by
  simp [since, first]

theorem since_cons_other (other : kind m = false) : since kind (m :: older) = m :: since kind older := by
  simp [since, other]

/-- A history splits at its latest moment of a kind. -/
theorem since_split {past : History σ ι ο} (some : ∃ m ∈ past, kind m = true) :
    ∃ m older, past = since kind past ++ m :: older ∧ kind m = true := by
  induction past with
  | nil =>
    obtain ⟨m, member, _⟩ := some
    cases member
  | cons n past ih =>
    cases first : kind n with
    | true => exact ⟨n, past, by simp [since_cons_kind first], first⟩
    | false =>
      obtain ⟨m, member, own⟩ := some
      have later : m ∈ past := by
        rcases List.mem_cons.mp member with rfl | later
        · rw [own] at first
          cases first
        · exact later
      obtain ⟨m', older, split, own'⟩ := ih ⟨m, later, own⟩
      exact ⟨m', older, by rw [since_cons_other first, List.cons_append, ← split], own'⟩

/-- A moment since the latest one of a kind splits the history where none of the kind came after. -/
theorem since_mem {past : History σ ι ο} {n : Moment σ ι ο} (member : n ∈ since kind past) :
    ∃ newer older, past = newer ++ n :: older ∧ ∀ k ∈ newer, kind k = false := by
  obtain ⟨newer, rest, split⟩ := List.append_of_mem member
  refine ⟨newer, rest ++ past.dropWhile fun m => !kind m, ?_, fun k first => ?_⟩
  · rw [← List.cons_append, ← List.append_assoc, ← split]
    exact List.takeWhile_append_dropWhile.symm
  · have later : k ∈ since kind past := by
      rw [split]
      exact List.mem_append_left _ first
    simpa using List.all_eq_true.mp List.all_takeWhile k later

end

/-- The history is one of a run, moment by moment. -/
theorem Runs.inv {past : History σ ι ο} {m : Moment σ ι ο} {s : σ} (run : Runs M (m :: past) s) :
    Runs M past m.pre ∧ M.step m.pre m.input = .ok (m.post, m.outputs) ∧ s = m.post := by
  cases run with
  | step earlier stepped => exact ⟨earlier, stepped, rfl⟩

/-- A history ends in one state, where a run can start in one only. -/
theorem Runs.unique (one : ∀ s t, M.Start s → M.Start t → s = t) {past : History σ ι ο} {s t : σ}
    (run : Runs M past s) (run' : Runs M past t) : s = t := by
  cases past with
  | nil =>
    cases run with
    | start first =>
      cases run' with
      | start first' => exact one _ _ first first'
  | cons m past => exact run.inv.2.2.trans run'.inv.2.2.symm

theorem Runs.suffix {newer older : History σ ι ο} {s : σ} (run : Runs M (newer ++ older) s) :
    ∃ t, Runs M older t := by
  induction newer generalizing s with
  | nil => exact ⟨s, run⟩
  | cons m newer ih => exact ih run.inv.1

/-- Induction over runs that keep to a condition. -/
theorem Runs.invariant_along {C : History σ ι ο → Moment σ ι ο → Prop} {I : History σ ι ο → σ → Prop}
    (base : ∀ s, M.Start s → I [] s)
    (keep : ∀ past s i os s', Runs M past s → I past s → M.step s i = .ok (s', os) →
      C past ⟨s, i, os, s'⟩ → I (⟨s, i, os, s'⟩ :: past) s')
    {past : History σ ι ο} {s : σ} (run : Runs M past s) (all : Along C past) : I past s := by
  induction run with
  | start first => exact base _ first
  | step earlier stepped ih => exact keep _ _ _ _ _ earlier (ih all.2) stepped all.1

/-- Induction over all runs. -/
theorem Runs.invariant {I : History σ ι ο → σ → Prop} (base : ∀ s, M.Start s → I [] s)
    (keep : ∀ past s i os s', Runs M past s → I past s → M.step s i = .ok (s', os) →
      I (⟨s, i, os, s'⟩ :: past) s')
    {past : History σ ι ο} {s : σ} (run : Runs M past s) : I past s := by
  induction run with
  | start first => exact base _ first
  | step earlier stepped ih => exact keep _ _ _ _ _ earlier ih stepped

/-- Induction over the part of a run after a moment, whose moments all meet a condition. -/
theorem Runs.segment {C : Moment σ ι ο → Prop} {I : History σ ι ο → σ → Prop} {m : Moment σ ι ο}
    {older : History σ ι ο} (base : I [] m.post)
    (keep : ∀ newer n, Runs M (newer ++ m :: older) n.pre → I newer n.pre →
      M.step n.pre n.input = .ok (n.post, n.outputs) → C n → I (n :: newer) n.post)
    {newer : History σ ι ο} {s : σ} (run : Runs M (newer ++ m :: older) s) (all : ∀ n ∈ newer, C n) :
    I newer s := by
  induction newer generalizing s with
  | nil => exact run.inv.2.2 ▸ base
  | cons n newer ih =>
    obtain ⟨earlier, stepped, rfl⟩ := run.inv
    obtain ⟨first, rest⟩ := List.forall_mem_cons.mp all
    exact keep newer n earlier (ih earlier rest) stepped first

/-- What every single step of a run guarantees holds along the run. -/
theorem Runs.along {P : History σ ι ο → Moment σ ι ο → Prop}
    (each : ∀ past s i os s', Runs M past s → M.step s i = .ok (s', os) → P past ⟨s, i, os, s'⟩)
    {past : History σ ι ο} {s : σ} (run : Runs M past s) : Along P past := by
  induction run with
  | start _ => trivial
  | step earlier stepped ih => exact ⟨each _ _ _ _ _ earlier stepped, ih⟩

/-- What every step guarantees in runs that keep to a condition. -/
theorem Runs.along_of_along {C P : History σ ι ο → Moment σ ι ο → Prop}
    (each : ∀ past s i os s', Runs M past s → Along C past → M.step s i = .ok (s', os) →
      C past ⟨s, i, os, s'⟩ → P past ⟨s, i, os, s'⟩)
    {past : History σ ι ο} {s : σ} (run : Runs M past s) (all : Along C past) : Along P past := by
  induction run with
  | start _ => trivial
  | step earlier stepped ih => exact ⟨each _ _ _ _ _ earlier all.2 stepped all.1, ih all.2⟩

/-- Two conditions that every step of a run meets alike are met along the same runs. -/
theorem Runs.along_congr {P Q : History σ ι ο → Moment σ ι ο → Prop}
    (each : ∀ past s i os s', Runs M past s → M.step s i = .ok (s', os) →
      (P past ⟨s, i, os, s'⟩ ↔ Q past ⟨s, i, os, s'⟩))
    {past : History σ ι ο} {s : σ} (run : Runs M past s) : Along P past ↔ Along Q past := by
  induction run with
  | start _ => exact Iff.rfl
  | step earlier stepped ih => exact and_congr (each _ _ _ _ _ earlier stepped) ih

/-! ### Running a list of inputs -/

/-- The run that a list of inputs makes from a state with a history behind it. -/
def exec (M : Machine σ ι ο ε) : History σ ι ο → σ → List ι → Except ε (History σ ι ο × σ)
  | past, s, [] => .ok (past, s)
  | past, s, i :: rest =>
    match M.step s i with
    | .ok (s', os) => exec M (⟨s, i, os, s'⟩ :: past) s' rest
    | .error e => .error e

theorem exec_runs (inputs : List ι) : ∀ {past past' : History σ ι ο} {s s' : σ}, Runs M past s →
    exec M past s inputs = .ok (past', s') → Runs M past' s' := by
  induction inputs with
  | nil =>
    intro past past' s s' run done
    simp only [exec, Except.ok.injEq, Prod.mk.injEq] at done
    exact done.1 ▸ done.2 ▸ run
  | cons i rest ih =>
    intro past past' s s' run done
    simp only [exec] at done
    split at done
    · rename_i t os stepped
      exact ih (.step run stepped) done
    · cases done

/-- A run from a start state whose end passes a test. -/
theorem exists_run {s : σ} (inputs : List ι) (first : M.Start s) (test : History σ ι ο → σ → Bool)
    (passes : (exec M [] s inputs).map (fun r => test r.1 r.2) = .ok true) :
    ∃ past t, Runs M past t ∧ test past t = true := by
  cases done : exec M [] s inputs with
  | error e => rw [done] at passes; cases passes
  | ok r =>
    rw [done] at passes
    exact ⟨r.1, r.2, exec_runs inputs (.start first) done, by simpa [Except.map] using passes⟩

/-- A run from a start state that passes a test where its history is split before
    its last moments. -/
theorem exists_run_at {s : σ} (inputs : List ι) (first : M.Start s) (last : Nat)
    (test : History σ ι ο → Moment σ ι ο → History σ ι ο → σ → Bool)
    (passes : (exec M [] s inputs).map (fun r => match r.1.drop last with
      | m :: older => test (r.1.take last) m older r.2
      | [] => false) = .ok true) :
    ∃ newer m older t, Runs M (newer ++ m :: older) t ∧ test newer m older t = true := by
  obtain ⟨past, t, run, split⟩ := exists_run inputs first (fun past t => match past.drop last with
    | m :: older => test (past.take last) m older t
    | [] => false) passes
  cases rest : past.drop last with
  | nil => rw [rest] at split; cases split
  | cons m older =>
    rw [rest] at split
    refine ⟨past.take last, m, older, t, ?_, split⟩
    rw [← rest, List.take_append_drop]
    exact run

/-- The state after a list of inputs that nothing comes between, and what they put out. -/
def burst (M : Machine σ ι ο ε) : σ → List ι → Except ε (σ × List ο)
  | s, [] => .ok (s, [])
  | s, i :: rest =>
    match M.step s i with
    | .ok (t, os) => (burst M t rest).map fun r => (r.1, os ++ r.2)
    | .error e => .error e

/-- A burst of inputs is a first step and the burst of the others. -/
theorem burst_cons {s t : σ} {i : ι} {rest : List ι} {os : List ο} (done : burst M s (i :: rest) = .ok (t, os)) :
    ∃ u first later, M.step s i = .ok (u, first) ∧ burst M u rest = .ok (t, later) ∧ os = first ++ later := by
  simp only [burst] at done
  split at done
  · rename_i u first stepped
    cases others : burst M u rest with
    | error e => rw [others] at done; cases done
    | ok r =>
      rw [others] at done
      cases done
      exact ⟨u, first, r.2, stepped, others, rfl⟩
  · cases done

/-- The inputs of a history, in their order. -/
def inputs (past : History σ ι ο) : List ι := past.reverse.map Moment.input

/-- The outputs of a history, in their order. -/
def outputs (past : History σ ι ο) : List ο := past.reverse.flatMap Moment.outputs

@[simp] theorem inputs_append (newer older : History σ ι ο) :
    inputs (newer ++ older) = inputs older ++ inputs newer := by
  simp [inputs]

@[simp] theorem outputs_append (newer older : History σ ι ο) :
    outputs (newer ++ older) = outputs older ++ outputs newer := by
  simp [outputs]

@[simp] theorem inputs_cons (m : Moment σ ι ο) (older : History σ ι ο) :
    inputs (m :: older) = inputs older ++ [m.input] := by
  simp [inputs]

@[simp] theorem outputs_cons (m : Moment σ ι ο) (older : History σ ι ο) :
    outputs (m :: older) = outputs older ++ m.outputs := by
  simp [outputs]

/-- A burst of inputs goes on with a run. -/
theorem burst_runs {is : List ι} : ∀ {past : History σ ι ο} {s t : σ} {os : List ο}, Runs M past s →
    burst M s is = .ok (t, os) → ∃ newer, Runs M (newer ++ past) t ∧ inputs newer = is ∧ outputs newer = os := by
  induction is with
  | nil =>
    intro past s t os run done
    cases done
    exact ⟨[], run, rfl, rfl⟩
  | cons i rest ih =>
    intro past s t os run done
    obtain ⟨u, first, later, stepped, others, rfl⟩ := burst_cons done
    obtain ⟨newer, run', read, put⟩ := ih (run.step stepped) others
    refine ⟨newer ++ [⟨s, i, first, u⟩], ?_, ?_, ?_⟩
    · rw [List.append_assoc]
      exact run'
    · rw [inputs_append, read]
      rfl
    · rw [outputs_append, put]
      simp [outputs]

/-- A burst of inputs after a burst. -/
theorem burst_append {is js : List ι} : ∀ {s t u : σ} {os os' : List ο}, burst M s is = .ok (t, os) →
    burst M t js = .ok (u, os') → burst M s (is ++ js) = .ok (u, os ++ os') := by
  induction is with
  | nil =>
    intro s t u os os' first second
    cases first
    exact second
  | cons i rest ih =>
    intro s t u os os' first second
    obtain ⟨v, now, later, stepped, others, rfl⟩ := burst_cons first
    rw [List.cons_append, burst, stepped]
    dsimp only
    rw [ih others second, List.append_assoc]
    rfl

/-! ### Refinement -/

/-- A sequence of steps leads from one state to the other. -/
def Leads (M : Machine σ ι ο ε) : σ → σ → Prop :=
  Relation.ReflTransGen (fun s t => ∃ i os, M.step s i = .ok (t, os))

theorem reachable_leads {s t : σ} (reach : Reachable M s) (leads : Leads M s t) : Reachable M t := by
  induction leads with
  | refl => exact reach
  | tail _ last ih =>
    obtain ⟨past, run⟩ := ih
    obtain ⟨i, os, stepped⟩ := last
    exact ⟨_, run.step stepped⟩

theorem leads_step {s t : σ} {i : ι} {os : List ο} (stepped : M.step s i = .ok (t, os)) : Leads M s t :=
  .single ⟨i, os, stepped⟩

theorem leads_burst {inputs : List ι} : ∀ {s t : σ} {os : List ο}, burst M s inputs = .ok (t, os) →
    Leads M s t := by
  induction inputs with
  | nil =>
    intro s t os done
    cases done
    exact .refl
  | cons i rest ih =>
    intro s t os done
    obtain ⟨u, first, later, stepped, others, _⟩ := burst_cons done
    exact (leads_step stepped).trans (ih others)

/-- A machine whose steps are sequences of steps of another reaches, seen
    through `view`, only states that the other reaches. -/
theorem Runs.refines {σ' : Type*} {ι' : Type*} {ο' : Type*} {ε' : Type*} {N : Machine σ' ι' ο' ε'}
    (view : σ → σ') (starts : ∀ s, M.Start s → N.Start (view s))
    (steps : ∀ s i os s', M.step s i = .ok (s', os) → Leads N (view s) (view s'))
    {past : History σ ι ο} {s : σ} (run : Runs M past s) : Reachable N (view s) := by
  induction run with
  | start first => exact ⟨[], .start (starts _ first)⟩
  | step _ stepped ih => exact reachable_leads ih (steps _ _ _ _ stepped)

end

/-! ### Machines that cannot be told apart -/

/-- Two computations end alike: with the same error, or with related results. -/
inductive Agree {α β : Type*} {ε : Type x} (P : α → β → Prop) : Except ε α → Except ε β → Prop
  | ok {a : α} {b : β} (related : P a b) : Agree P (.ok a) (.ok b)
  | error (e : ε) : Agree P (.error e) (.error e)

section
variable {α β γ δ : Type u} {ε : Type x} {P : α → β → Prop} {Q : γ → δ → Prop}

theorem agree_bind {x : Except ε α} {y : Except ε β} {f : α → Except ε γ} {g : β → Except ε δ} (first : Agree P x y)
    (next : ∀ a b, P a b → Agree Q (f a) (g b)) : Agree Q (x >>= f) (y >>= g) := by
  cases first with
  | ok related => exact next _ _ related
  | error e => exact .error e

theorem agree_map {x : Except ε α} {y : Except ε β} {f : α → γ} {g : β → δ} (first : Agree P x y)
    (next : ∀ a b, P a b → Q (f a) (g b)) : Agree Q (x.map f) (y.map g) := by
  cases first with
  | ok related => exact .ok (next _ _ related)
  | error e => exact .error e

theorem agree_refl {R : α → α → Prop} {x : Except ε α} (same : ∀ a, R a a) : Agree R x x := by
  cases x with
  | ok a => exact .ok (same a)
  | error e => exact .error e

end

section
variable {σ : Type u} {ι : Type v} {ο : Type w} {ε : Type x}

/-- What the machine puts out from a state, input by input, until it stops. -/
def trace (M : Machine σ ι ο ε) : σ → List ι → List (Except ε (List ο))
  | _, [] => []
  | s, i :: rest =>
    match M.step s i with
    | .ok (s', os) => .ok os :: trace M s' rest
    | .error e => [.error e]

/-- States in a relation that every step keeps, with the same outputs, put out the
    same for all inputs. -/
theorem trace_eq {M : Machine σ ι ο ε} {P : σ → σ → Prop}
    (keep : ∀ s t i, P s t → Agree (fun r r' => P r.1 r'.1 ∧ r'.2 = r.2) (M.step s i) (M.step t i))
    {s t : σ} (related : P s t) (inputs : List ι) : trace M t inputs = trace M s inputs := by
  induction inputs generalizing s t with
  | nil => rfl
  | cons i rest ih =>
    have step := keep s t i related
    simp only [trace]
    generalize M.step s i = x at step
    generalize M.step t i = y at step
    cases step with
    | error e => rfl
    | ok both =>
      obtain ⟨next, same⟩ := both
      simp only [same, ih next]

end
end AutowareAgent.Machines
