import Mathlib.Algebra.Order.Field.Basic
import Mathlib.Tactic.FieldSimp
import Mathlib.Tactic.Linarith
import Mathlib.Tactic.Ring

/-!
Segments of a plane over an ordered field. The point of a segment that is nearest
to a target lies where the vertex of a parabola is clamped to the segment.
-/
namespace AutowareAgent.Segments
universe u

section
variable {K : Type u} [Field K] [LinearOrder K]

/-- The square of the distance between two points. -/
def sqDist (p q : K × K) : K := (p.1 - q.1) ^ 2 + (p.2 - q.2) ^ 2

/-- The point of the line through two points at a parameter. -/
def along (p q : K × K) (t : K) : K × K := (p.1 + t * (q.1 - p.1), p.2 + t * (q.2 - p.2))

/-- The third point is between the first two. -/
def OnSegment (p q r : K × K) : Prop := ∃ t, 0 ≤ t ∧ t ≤ 1 ∧ r = along p q t

/-- The product of the way to the target and the way along the segment. -/
def forth (target p q : K × K) : K := (target.1 - p.1) * (q.1 - p.1) + (target.2 - p.2) * (q.2 - p.2)

/-- Where on the segment the nearest point is. -/
def nearestAt (target p q : K × K) : K :=
  if 0 < sqDist q p then max 0 (min (forth target p q / sqDist q p) 1) else 0

/-- The point of the segment that is nearest to the target. -/
def nearest (target p q : K × K) : K × K := along p q (nearestAt target p q)

omit [LinearOrder K] in
theorem sqDist_along (target p q : K × K) (t : K) :
    sqDist target (along p q t) = sqDist q p * t ^ 2 - 2 * forth target p q * t + sqDist target p := by
  simp only [sqDist, along, forth]
  ring

end

section
variable {K : Type u} [Field K] [LinearOrder K] [IsStrictOrderedRing K]

theorem sqDist_nonneg (p q : K × K) : 0 ≤ sqDist p q := add_nonneg (sq_nonneg _) (sq_nonneg _)

omit [LinearOrder K] [IsStrictOrderedRing K] in
@[simp] theorem sqDist_self (p : K × K) : sqDist p p = 0 := by
  simp [sqDist]

/-- Points without a distance are the same. -/
theorem eq_of_sqDist {p q : K × K} (none : sqDist p q ≤ 0) : p = q := by
  have same : sqDist p q = 0 := le_antisymm none (sqDist_nonneg p q)
  obtain ⟨first, second⟩ := (add_eq_zero_iff_of_nonneg (sq_nonneg _) (sq_nonneg _)).mp same
  exact Prod.ext (sub_eq_zero.mp (sq_eq_zero_iff.mp first)) (sub_eq_zero.mp (sq_eq_zero_iff.mp second))

/-- The clamped vertex is not farther from the vertex than any other place. -/
theorem clamp_nearest {v lo hi t : K} (low : lo ≤ t) (high : t ≤ hi) :
    (max lo (min v hi) - v) ^ 2 ≤ (t - v) ^ 2 := by
  rw [sq_le_sq]
  rcases le_total v lo with below | above
  · have own : max lo (min v hi) = lo := max_eq_left ((min_le_left v hi).trans below)
    rw [own, abs_of_nonneg (by linarith), abs_of_nonneg (by linarith)]
    linarith
  · rcases le_total v hi with inside | beyond
    · have own : max lo (min v hi) = v := by rw [min_eq_left inside, max_eq_right above]
      rw [own, sub_self, abs_zero]
      exact abs_nonneg _
    · have own : max lo (min v hi) = hi := by rw [min_eq_right beyond, max_eq_right (low.trans high)]
      rw [own, abs_of_nonpos (by linarith), abs_of_nonpos (by linarith)]
      linarith

omit [IsStrictOrderedRing K] in
/-- A segment with a length meets none of its points twice. -/
theorem along_injective {p q : K × K} (long : 0 < sqDist q p) {t t' : K} (same : along p q t = along p q t') : t = t' := by
  simp only [along, Prod.mk.injEq, add_right_inj, mul_eq_mul_right_iff] at same
  obtain ⟨first | first, second | second⟩ := same
  · exact first
  · exact first
  · exact second
  · rw [sqDist, first, second] at long
    simp at long

theorem nearestAt_mem (target p q : K × K) : 0 ≤ nearestAt target p q ∧ nearestAt target p q ≤ 1 := by
  unfold nearestAt
  split
  · exact ⟨le_max_left _ _, max_le zero_le_one (min_le_right _ _)⟩
  · exact ⟨le_rfl, zero_le_one⟩

theorem nearest_onSegment (target p q : K × K) : OnSegment p q (nearest target p q) :=
  ⟨nearestAt target p q, (nearestAt_mem target p q).1, (nearestAt_mem target p q).2, rfl⟩

/-- No point of the segment is nearer. -/
theorem nearest_le {target p q r : K × K} (between : OnSegment p q r) :
    sqDist target (nearest target p q) ≤ sqDist target r := by
  obtain ⟨t, low, high, rfl⟩ := between
  unfold nearest nearestAt
  split
  · rename_i long
    -- completing the square around the vertex
    have square : ∀ s, sqDist target (along p q s) =
        sqDist q p * (s - forth target p q / sqDist q p) ^ 2 +
          (sqDist target p - forth target p q ^ 2 / sqDist q p) := by
      intro s
      rw [sqDist_along]
      field_simp
      ring
    rw [square, square]
    have nearer := mul_le_mul_of_nonneg_left (clamp_nearest (v := forth target p q / sqDist q p) low high) long.le
    linarith
  · rename_i short
    -- a segment without length is a point
    simp [along, eq_of_sqDist (not_lt.mp short)]

end

/-! ### Chains of segments -/

section
variable {K : Type u} [Field K] [LinearOrder K]

/-- A point of the chain of segments between the points of a list. -/
def OnChain (points : List (K × K)) (r : K × K) : Prop :=
  ∃ s ∈ points.zip points.tail, OnSegment s.1 s.2 r

end
end AutowareAgent.Segments
