import AutowareAgent.Machines

/-!
Machines that are parts of a larger one. Every step of the whole is a step of the
part or leaves it as it is, so the part runs in the whole as it does alone. What
the part does alone on inputs of its own, the whole does with the rest unchanged.
-/
namespace AutowareAgent.Parts
open AutowareAgent.Machines
universe u v w x

section
variable {σ τ : Type u} {ι ι' : Type v} {ο ο' : Type w} {ε ε' : Type x}

/-- A part of a machine: its state within the whole, what an input of the whole is to
    it, and which outputs of the whole are its own. -/
structure Part (M : Machine σ ι ο ε) (N : Machine τ ι' ο' ε') where
  get : σ → τ
  input : σ → ι → Option ι'
  output : ο → Option ο'
  starts : ∀ {s}, M.Start s → N.Start (get s)
  moves : ∀ {s i s' os j}, M.step s i = .ok (s', os) → input s i = some j →
    N.step (get s) j = .ok (get s', os.filterMap output)
  rests : ∀ {s i s' os}, M.step s i = .ok (s', os) → input s i = none → get s' = get s

variable {M : Machine σ ι ο ε} {N : Machine τ ι' ο' ε'}

/-- The moment of the part within one of the whole. -/
def Part.moment (P : Part M N) (m : Moment σ ι ο) : Option (Moment τ ι' ο') :=
  (P.input m.pre m.input).map fun j => ⟨P.get m.pre, j, m.outputs.filterMap P.output, P.get m.post⟩

/-- The history of the part within one of the whole. -/
def Part.past (P : Part M N) (past : History σ ι ο) : History τ ι' ο' := past.filterMap P.moment

/-- The inputs of the part that the whole can be given, where the part may take them,
    and what a step on one of them leaves. -/
structure Own (P : Part M N) where
  set : σ → τ → σ
  turn : ι' → ι
  May : τ → ι' → Prop
  get_set : ∀ s t, P.get (set s t) = t
  set_get : ∀ s, set s (P.get s) = s
  set_set : ∀ s t t', set (set s t) t' = set s t'
  takes : ∀ {s j t os}, May (P.get s) j → N.step (P.get s) j = .ok (t, os) →
    ∃ os', M.step s (turn j) = .ok (set s t, os')

variable {P : Part M N} {past : History σ ι ο} {s : σ}

/-- The part runs in the whole as it does alone. -/
theorem Part.runs (run : Runs M past s) : Runs N (P.past past) (P.get s) := by
  induction run with
  | start first => exact .start (P.starts first)
  | @step past s s' i os _ stepped ih =>
    unfold Part.past at ih ⊢
    rw [List.filterMap_cons, Part.moment]
    cases given : P.input s i with
    | none => simpa [P.rests stepped given] using ih
    | some j => simpa [given] using ih.step (P.moves stepped given)

/-- A run of the part that goes on by itself goes on within the whole. -/
theorem Own.lift (O : Own P) (one : ∀ t t', N.Start t → N.Start t' → t = t') (run : Runs M past s)
    {newer : History τ ι' ο'} {t : τ} (alone : Runs N (newer ++ P.past past) t)
    (may : ∀ n ∈ newer, O.May n.pre n.input) : ∃ newer', Runs M (newer' ++ past) (O.set s t) ∧
      ∀ m ∈ newer', ∃ n ∈ newer, m.input = O.turn n.input ∧ P.get m.pre = n.pre := by
  induction newer generalizing t with
  | nil =>
    obtain rfl : P.get s = t := (Part.runs run).unique one alone
    exact ⟨[], by rwa [O.set_get], fun m member => absurd member List.not_mem_nil⟩
  | cons n newer ih =>
    obtain ⟨earlier, stepped, rfl⟩ := alone.inv
    obtain ⟨here, others⟩ := List.forall_mem_cons.mp may
    obtain ⟨newer', run', from_⟩ := ih earlier others
    have own : P.get (O.set s n.pre) = n.pre := O.get_set s n.pre
    obtain ⟨os', taken⟩ := O.takes (s := O.set s n.pre) (own ▸ here) (own ▸ stepped)
    rw [O.set_set] at taken
    refine ⟨_ :: newer', run'.step taken, fun m member => ?_⟩
    rcases List.mem_cons.mp member with rfl | old
    · exact ⟨n, List.mem_cons_self, rfl, own⟩
    · obtain ⟨n', member', same⟩ := from_ m old
      exact ⟨n', List.mem_cons_of_mem _ member', same⟩

end
end AutowareAgent.Parts
