import AutowareAgent.Machines

/-!
Two machines side by side. An input of the pair is an input of the first or
none, and a list of inputs of the second that may depend on what the first put
out. A run of the pair is a run of each, over the inputs that the coupling gives
it, so what is known of the machines alone holds of them in the pair.
-/
namespace AutowareAgent.Couplings
open AutowareAgent.Machines
universe u v w x

/-- What an input of the pair is to either machine. -/
structure Coupling (σ : Type u) (ι : Type v) (ο : Type w) (σ' : Type u) (ι' : Type v) (κ : Type v) where
  left : σ → σ' → κ → Option ι
  right : σ → σ' → κ → List ο → List ι'

section
variable {σ : Type u} {ι : Type v} {ο : Type w} {ε : Type x} {M : Machine σ ι ο ε}

/-- The step of an input that may be none. -/
def stepOption (M : Machine σ ι ο ε) (s : σ) : Option ι → Except ε (σ × List ο)
  | some i => M.step s i
  | none => .ok (s, [])

end

section
variable {σ : Type u} {ι : Type v} {ο : Type w} {ε : Type x} {σ' : Type u} {ι' : Type v} {ο' : Type w} {ε' : Type x}
variable {κ : Type v}

/-- The pair: the first machine's step, then the second's. -/
def Coupling.step (C : Coupling σ ι ο σ' ι' κ) (M : Machine σ ι ο ε) (N : Machine σ' ι' ο' ε') (s : σ × σ') (k : κ) :
    Except (ε ⊕ ε') ((σ × σ') × List (ο ⊕ ο')) :=
  match stepOption M s.1 (C.left s.1 s.2 k) with
  | .error e => .error (.inl e)
  | .ok (a, os) =>
    match burst N s.2 (C.right s.1 s.2 k os) with
    | .error e => .error (.inr e)
    | .ok (b, os') => .ok ((a, b), os.map .inl ++ os'.map .inr)

def Coupling.machine (C : Coupling σ ι ο σ' ι' κ) (M : Machine σ ι ο ε) (N : Machine σ' ι' ο' ε') :
    Machine (σ × σ') κ (ο ⊕ ο') (ε ⊕ ε') where
  Start s := M.Start s.1 ∧ N.Start s.2
  step := C.step M N

/-- The outputs of the first machine. -/
def lefts (os : List (ο ⊕ ο')) : List ο := os.filterMap Sum.getLeft?

/-- The outputs of the second machine. -/
def rights (os : List (ο ⊕ ο')) : List ο' := os.filterMap Sum.getRight?

theorem lefts_pair (os : List ο) (os' : List ο') : lefts (os.map .inl ++ os'.map .inr) = os := by
  simp [lefts, List.filterMap_map, Function.comp_def]

theorem rights_pair (os : List ο) (os' : List ο') : rights (os.map .inl ++ os'.map .inr) = os' := by
  simp [rights, List.filterMap_map, Function.comp_def]

variable {C : Coupling σ ι ο σ' ι' κ} {M : Machine σ ι ο ε} {N : Machine σ' ι' ο' ε'}

/-- A step of the pair is a step of the first machine, or none, and a burst of the second. -/
theorem coupled_cases {s s' : σ × σ'} {k : κ} {outs : List (ο ⊕ ο')} (stepped : C.step M N s k = .ok (s', outs)) :
    stepOption M s.1 (C.left s.1 s.2 k) = .ok (s'.1, lefts outs) ∧
      burst N s.2 (C.right s.1 s.2 k (lefts outs)) = .ok (s'.2, rights outs) := by
  unfold Coupling.step at stepped
  split at stepped
  · cases stepped
  · rename_i a os first
    split at stepped
    · cases stepped
    · rename_i b os' second
      cases stepped
      rw [lefts_pair, rights_pair]
      exact ⟨first, second⟩

variable (C) in
/-- The moment of the first machine within one of the pair. -/
def Coupling.leftMoment (m : Moment (σ × σ') κ (ο ⊕ ο')) : Option (Moment σ ι ο) :=
  (C.left m.pre.1 m.pre.2 m.input).map fun i => ⟨m.pre.1, i, lefts m.outputs, m.post.1⟩

variable (C) in
/-- The history of the first machine within one of the pair. -/
def Coupling.leftPast (past : History (σ × σ') κ (ο ⊕ ο')) : History σ ι ο := past.filterMap C.leftMoment

/-- The first machine runs in the pair as it does alone. -/
theorem left_runs {past : History (σ × σ') κ (ο ⊕ ο')} {s : σ × σ'} (run : Runs (C.machine M N) past s) :
    Runs M (C.leftPast past) s.1 := by
  refine run.invariant (I := fun past s => Runs M (C.leftPast past) s.1) ?_ ?_
  · intro s first
    exact .start first.1
  · intro past s k outs s' _ alone stepped
    obtain ⟨first, _⟩ := coupled_cases stepped
    unfold Coupling.leftPast at alone ⊢
    rw [List.filterMap_cons, Coupling.leftMoment]
    cases input : C.left s.1 s.2 k with
    | none =>
      rw [input] at first
      obtain ⟨same, _⟩ := Prod.mk.inj (Except.ok.inj first)
      simpa [← same] using alone
    | some i =>
      rw [input] at first
      simpa using alone.step first

end
end AutowareAgent.Couplings
