import Mathlib.Data.List.MinMax

/-!
Loops that look for a least element. A loop that keeps the first least element
it has seen, whatever it stores of it, ends with `List.argmin`; a loop that also
skips elements ends with that of the others. The first least element of a list
is characterised by how it splits the list.
-/
namespace AutowareAgent.Minimum
universe u v w

section
variable {α : Type u} {β : Type v} {σ : Type w}

/-- The first of the elements at which the function is least. -/
def FirstLeast [LE β] [LT β] (f : α → β) (l : List α) (a : α) : Prop :=
  ∃ before after, l = before ++ a :: after ∧ (∀ b ∈ before, f a < f b) ∧ ∀ b ∈ after, f a ≤ f b

/-! ### Loops -/

/-- The invariant of a loop that stores `rep` of the first least element. -/
theorem foldl_argmin [Preorder β] [DecidableLT β] {f : α → β} {step : σ → α → σ} (rep : Option α → σ)
    (first : ∀ a, step (rep none) a = rep (some a))
    (next : ∀ b a, step (rep (some b)) a = if f a < f b then rep (some a) else rep (some b)) (l : List α) :
    l.foldl step (rep none) = rep (l.argmin f) := by
  induction l using List.reverseRecOn with
  | nil => rfl
  | append_singleton l a ih =>
    rw [List.foldl_append, ih, List.argmin_concat]
    cases l.argmin f with
    | none => exact first a
    | some b =>
      refine (next b a).trans ?_
      exact (apply_ite rep _ _ _).symm

/-- The loop may skip elements. -/
theorem foldl_argmin_filter [Preorder β] [DecidableLT β] {f : α → β} {step : σ → α → σ} (rep : Option α → σ)
    {keeps : α → Bool} (skip : ∀ s a, keeps a = false → step s a = s)
    (first : ∀ a, keeps a = true → step (rep none) a = rep (some a))
    (next : ∀ b a, keeps a = true → step (rep (some b)) a = if f a < f b then rep (some a) else rep (some b))
    (l : List α) : l.foldl step (rep none) = rep ((l.filter keeps).argmin f) := by
  induction l using List.reverseRecOn with
  | nil => rfl
  | append_singleton l a ih =>
    rw [List.foldl_append, ih, List.filter_append]
    cases kept : keeps a with
    | false => simp [kept, skip]
    | true =>
      simp only [List.foldl_cons, List.foldl_nil, List.filter_cons_of_pos kept, List.filter_nil,
        List.argmin_concat]
      cases (l.filter keeps).argmin f with
      | none => exact first a kept
      | some b =>
        refine (next b a kept).trans ?_
        exact (apply_ite rep _ _ _).symm

/-- A loop that starts with the first element. -/
theorem foldl_argmin_cons [Preorder β] [DecidableLT β] {f : α → β} {step : α → α → α}
    (next : ∀ b a, step b a = if f a < f b then a else b) (a : α) (l : List α) :
    some (l.foldl step a) = (a :: l).argmin f := by
  induction l using List.reverseRecOn with
  | nil => rfl
  | append_singleton l b ih =>
    rw [List.foldl_append, ← List.cons_append, List.argmin_concat, ← ih, List.foldl_cons, List.foldl_nil, next]
    exact apply_ite some _ _ _

/-! ### First least elements -/

section
variable [LinearOrder β] {f : α → β} {l l' : List α} {a a' : α}

theorem FirstLeast.mem (first : FirstLeast f l a) : a ∈ l := by
  obtain ⟨before, after, rfl, _, _⟩ := first
  simp

theorem FirstLeast.le (first : FirstLeast f l a) {b : α} (member : b ∈ l) : f a ≤ f b := by
  obtain ⟨before, after, rfl, farther, later⟩ := first
  rcases List.mem_append.mp member with earlier | own
  · exact (farther b earlier).le
  · rcases List.mem_cons.mp own with rfl | after
    · exact le_rfl
    · exact later b after

/-- An element at the least value that is not after the first one is the first one. -/
theorem first_is_least {before mid after after' : List α} (farther : ∀ b ∈ before ++ mid, f a' < f b)
    (rest : a :: after = mid ++ a' :: after') (same : f a' = f a) : a = a' := by
  cases mid with
  | nil =>
    cases rest
    rfl
  | cons b mid =>
    cases rest
    have nearer := farther a (by simp)
    rw [same] at nearer
    exact absurd nearer (lt_irrefl _)

theorem FirstLeast.unique (first : FirstLeast f l a) (first' : FirstLeast f l a') : a = a' := by
  have same : f a = f a' := le_antisymm (first.le first'.mem) (first'.le first.mem)
  obtain ⟨before, after, rfl, farther, _⟩ := first
  obtain ⟨before', after', split, farther', _⟩ := first'
  rcases List.append_eq_append_iff.mp split with ⟨mid, rfl, rest⟩ | ⟨mid, rfl, rest⟩
  · exact first_is_least farther' rest same.symm
  · exact (first_is_least farther rest same).symm

theorem first_of_argmin (least : l.argmin f = some a) : FirstLeast f l a := by
  induction l using List.reverseRecOn generalizing a with
  | nil => cases least
  | append_singleton l b ih =>
    rw [List.argmin_concat] at least
    cases found : l.argmin f with
    | none =>
      rw [found] at least
      cases least
      rw [List.argmin_eq_none.mp found]
      exact ⟨[], [], rfl, by simp, by simp⟩
    | some c =>
      rw [found] at least
      have before := ih found
      by_cases nearer : f b < f c
      · cases (if_pos nearer).symm.trans least
        exact ⟨l, [], rfl, fun d member => lt_of_lt_of_le nearer (before.le member), by simp⟩
      · cases (if_neg nearer).symm.trans least
        obtain ⟨earlier, later, rfl, farther, atLeast⟩ := before
        refine ⟨earlier, later ++ [b], by simp, farther, fun d member => ?_⟩
        rcases List.mem_append.mp member with inside | last
        · exact atLeast d inside
        · rw [List.mem_singleton.mp last]
          exact le_of_not_gt nearer

/-- The loop's result is the first least element. -/
theorem argmin_first : l.argmin f = some a ↔ FirstLeast f l a := by
  constructor
  · exact first_of_argmin
  · intro first
    cases found : l.argmin f with
    | none =>
      rw [List.argmin_eq_none.mp found] at first
      exact absurd first.mem List.not_mem_nil
    | some b => rw [(first_of_argmin found).unique first]

/-- Among fewer elements the least is not less. -/
theorem FirstLeast.le_subset (first : FirstLeast f l a) (first' : FirstLeast f l' a') (fewer : l' ⊆ l) : f a ≤ f a' :=
  first.le (fewer first'.mem)

/-- The only least element is the least one of any fewer elements that it is among. -/
theorem FirstLeast.of_subset (first : FirstLeast f l a) (only : ∀ b ∈ l, f b = f a → b = a) (fewer : l' ⊆ l)
    (member : a ∈ l') : FirstLeast f l' a := by
  obtain ⟨before, after, rfl, absent⟩ := List.eq_append_cons_of_mem member
  have least : ∀ b ∈ before ++ a :: after, f a ≤ f b := fun b inside => first.le (fewer inside)
  refine ⟨before, after, rfl, fun b earlier => ?_, fun b later => least b (by simp [later])⟩
  refine lt_of_le_of_ne (least b (by simp [earlier])) fun same => ?_
  rw [only b (fewer (by simp [earlier])) same.symm] at earlier
  exact absent earlier

end

end
end AutowareAgent.Minimum
