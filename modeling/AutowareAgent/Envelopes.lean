import Mathlib.Algebra.Order.Field.Basic
import Mathlib.Data.Set.Finite.Lemmas
import Mathlib.Tactic.Linarith

/-!
Finitely many lines over an ordered field. The lowest line changes for the last
time where a line meets, as the last one, the line that is lowest from there on:
on the two sides of that place no line is lowest at both.
-/
namespace AutowareAgent.Envelopes
universe u v

section
variable {ι : Type u} {K : Type v} [Field K] [LinearOrder K]

/-- The height of a line with an intercept and a slope at a place. -/
def height (a s : ι → K) (k : K) (i : ι) : K := a i + k * s i

/-- A lowest one of the lines at a place. -/
def Lowest (lines : Set ι) (a s : ι → K) (k : K) (i : ι) : Prop :=
  i ∈ lines ∧ ∀ j ∈ lines, height a s k i ≤ height a s k j

/-- Where two lines of different slopes meet. -/
def meeting (a s : ι → K) (i j : ι) : K := (a i - a j) / (s j - s i)

variable [IsStrictOrderedRing K] {a s : ι → K} {lines : Set ι}

/-- The steeper of two lines is lower before they meet. -/
theorem height_lt_iff {i j : ι} (steeper : s i < s j) (k : K) :
    height a s k j < height a s k i ↔ k < meeting a s i j := by
  unfold height meeting
  rw [lt_div_iff₀ (sub_pos.mpr steeper)]
  constructor <;> intro lower <;> linarith

theorem height_le_iff {i j : ι} (steeper : s i < s j) (k : K) :
    height a s k j ≤ height a s k i ↔ k ≤ meeting a s i j := by
  unfold height meeting
  rw [le_div_iff₀ (sub_pos.mpr steeper)]
  constructor <;> intro lower <;> linarith

omit [Field K] [IsStrictOrderedRing K] in
/-- The line with the least slope, and the lowest one of these. -/
theorem exists_last (finite : lines.Finite) (some : lines.Nonempty) :
    ∃ l ∈ lines, (∀ j ∈ lines, s l ≤ s j) ∧ ∀ j ∈ lines, s j = s l → a l ≤ a j := by
  obtain ⟨i, inside, least⟩ := Set.exists_min_image lines s finite some
  obtain ⟨l, ⟨member, flat⟩, low⟩ :=
    Set.exists_min_image {j ∈ lines | s j = s i} a (finite.subset (Set.sep_subset _ _)) ⟨i, inside, rfl⟩
  refine ⟨l, member, fun j other => flat ▸ least j other, fun j other same => low j ⟨other, same.trans flat⟩⟩

/-- Lines with different slopes have two places, a given step apart, with no lowest line in common. -/
theorem no_common_lowest (finite : lines.Finite) (differ : ∃ i ∈ lines, ∃ j ∈ lines, s i ≠ s j) {step : K}
    (forward : 0 < step) : ∃ k, ∀ i, Lowest lines a s k i → ¬ Lowest lines a s (k + step) i := by
  obtain ⟨i, inside, j, inside', other⟩ := differ
  obtain ⟨l, member, least, low⟩ := exists_last (a := a) (s := s) finite ⟨i, inside⟩
  have steeper : {j ∈ lines | s l < s j}.Nonempty := by
    by_contra none
    have flat : ∀ j ∈ lines, s j = s l := fun j inside => by
      by_contra different
      exact none ⟨j, inside, lt_of_le_of_ne (least j inside) (Ne.symm different)⟩
    exact other ((flat i inside).trans (flat j inside').symm)
  obtain ⟨m, ⟨passed, steep⟩, last⟩ := Set.exists_max_image {j ∈ lines | s l < s j} (meeting a s l)
    (finite.subset (Set.sep_subset _ _)) steeper
  refine ⟨meeting a s l m - step / 2, fun i before after => ?_⟩
  rcases (least i before.1).lt_or_eq with steeper | flat
  · -- a steeper line is not lowest after the last meeting
    have early := (height_le_iff steeper _).mp (after.2 l member)
    linarith [last i ⟨before.1, steeper⟩]
  · -- a line of the least slope is not lowest before it
    have lower := (height_lt_iff (a := a) steep (meeting a s l m - step / 2)).mpr (by linarith)
    have above := before.2 m passed
    have under := low i before.1 flat.symm
    unfold height at lower above
    rw [← flat] at above
    linarith

end
end AutowareAgent.Envelopes
