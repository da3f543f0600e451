import AutowareAgent.Memo
import Mathlib.Data.List.Perm.Subperm

/-!
Vectors as they lie in memory. A vector owns a block; its elements are the cells
of the block from the first on, and a pointer to an element is the block with the
place in it. Appending to a full vector moves the elements to a new block, and no
older pointer denotes an element any more; appending to one with room leaves
every pointer as it was. A memo table kept in a vector answers with pointers.
-/
namespace AutowareAgent.Vectors
open AutowareAgent.Memo
universe u v w

/-- `std::vector`. Blocks are numbered in the order in which they are allocated. -/
structure Vec (α : Type u) where
  block : Nat
  capacity : Nat
  elems : List α
  fits : elems.length ≤ capacity
  deriving Repr

/-- A pointer to a cell of a block. -/
structure Ptr where
  block : Nat
  index : Nat
  deriving DecidableEq, Repr

section
variable {α : Type u}

/-- A vector as its default constructor leaves it. -/
def Vec.empty : Vec α := ⟨0, 0, [], Nat.le_refl 0⟩

/-- `reserve`. -/
def Vec.reserve (n : Nat) (v : Vec α) : Vec α :=
  if more : v.capacity < n then ⟨v.block + 1, n, v.elems, v.fits.trans more.le⟩ else v

/-- `emplace_back`. The new capacity of a full vector is the implementation's choice. -/
def Vec.emplaceBack (grow : Nat → Nat) (a : α) (v : Vec α) : Vec α :=
  if room : v.elems.length < v.capacity then
    ⟨v.block, v.capacity, v.elems ++ [a], by simpa using Nat.succ_le_of_lt room⟩
  else ⟨v.block + 1, max (grow v.capacity) (v.elems.length + 1), v.elems ++ [a],
    List.length_append.trans_le (Nat.le_max_right _ _)⟩

/-- The address of `back()`. -/
def Vec.back (v : Vec α) : Ptr := ⟨v.block, v.elems.length - 1⟩

/-- The element that a pointer denotes. -/
def Vec.deref (v : Vec α) (p : Ptr) : Option α := if p.block = v.block then v.elems[p.index]? else none

/-- The address of the first element that passes a test. -/
def Vec.find (test : α → Bool) (v : Vec α) : Option Ptr := (v.elems.findIdx? test).map fun i => ⟨v.block, i⟩

@[simp] theorem empty_elems : (Vec.empty : Vec α).elems = [] := rfl

@[simp] theorem reserve_elems (n : Nat) (v : Vec α) : (v.reserve n).elems = v.elems := by
  unfold Vec.reserve
  split <;> rfl

theorem reserve_empty (n : Nat) : ((Vec.empty : Vec α).reserve n).capacity = n := by
  unfold Vec.reserve
  split
  · rfl
  · rename_i none
    exact (Nat.eq_zero_of_not_pos none).symm

variable {grow : Nat → Nat} {v : Vec α} {a : α} {p : Ptr}

@[simp] theorem emplaceBack_elems : (v.emplaceBack grow a).elems = v.elems ++ [a] := by
  unfold Vec.emplaceBack
  split <;> rfl

/-- With room to append, the vector stays in its block. -/
theorem emplaceBack_stays (grow : Nat → Nat) (a : α) (room : v.elems.length < v.capacity) :
    (v.emplaceBack grow a).block = v.block ∧ (v.emplaceBack grow a).capacity = v.capacity := by
  unfold Vec.emplaceBack
  rw [dif_pos room]
  exact ⟨rfl, rfl⟩

/-- With room to append, every pointer denotes what it did. -/
theorem deref_emplaceBack {b : α} (room : v.elems.length < v.capacity) (denotes : v.deref p = some b) :
    (v.emplaceBack grow a).deref p = some b := by
  unfold Vec.deref at denotes ⊢
  rw [(emplaceBack_stays grow a room).1]
  split at denotes
  · rename_i own
    obtain ⟨inside, _⟩ := List.getElem?_eq_some_iff.mp denotes
    rw [if_pos own, emplaceBack_elems, List.getElem?_append_left inside]
    exact denotes
  · cases denotes

theorem deref_back : (v.emplaceBack grow a).deref (v.emplaceBack grow a).back = some a := by
  simp [Vec.deref, Vec.back]

/-- The address that is found denotes the element that is found. -/
theorem find_some {test : α → Bool} (found : v.find test = some p) :
    ∃ a, v.elems.find? test = some a ∧ v.deref p = some a := by
  unfold Vec.find at found
  obtain ⟨i, place, rfl⟩ := Option.map_eq_some_iff.mp found
  obtain ⟨inside, _⟩ := List.findIdx?_eq_some_iff_getElem.mp place
  have element : v.elems[i]? = some v.elems[i] := List.getElem?_eq_getElem inside
  refine ⟨v.elems[i], ?_, ?_⟩
  · rw [List.find?_eq_bind_findIdx?_getElem?, place]
    exact element
  · simp [Vec.deref, element]

theorem find_none {test : α → Bool} (missing : v.find test = none) : v.elems.find? test = none := by
  unfold Vec.find at missing
  rw [List.find?_eq_bind_findIdx?_getElem?, Option.map_eq_none_iff.mp missing]
  rfl

end

/-! ### A memo table in a vector -/

section
variable {κ : Type v} {α : Type u} {ε : Type w} [DecidableEq κ] (key : α → κ) (grow : Nat → Nat)

/-- The address of the value under the key, made and appended when the table has
    none, and the vector afterwards. -/
def Vec.fetch (v : Vec α) (k : κ) (make : Except ε α) : Except ε (Ptr × Vec α) :=
  match v.find fun a => key a = k with
  | some p => .ok (p, v)
  | none => make.map fun a => ((v.emplaceBack grow a).back, v.emplaceBack grow a)

variable {v v' : Vec α} {k : κ} {make : Except ε α} {p : Ptr}

/-- A request finds the value under its key, or appends what it makes under a key
    that the table did not have. -/
theorem vecFetch_cases (served : v.fetch key grow k make = .ok (p, v')) :
    (v' = v ∧ ∃ a, lookup key v.elems k = some a ∧ v.deref p = some a) ∨
    ∃ a, make = .ok a ∧ lookup key v.elems k = none ∧ v' = v.emplaceBack grow a ∧ v'.deref p = some a := by
  unfold Vec.fetch at served
  split at served
  · rename_i q place
    cases served
    obtain ⟨a, held, denotes⟩ := find_some place
    exact .inl ⟨rfl, a, held, denotes⟩
  · rename_i place
    cases make with
    | error e => cases served
    | ok a =>
      cases served
      exact .inr ⟨a, rfl, find_none place, rfl, deref_back⟩

/-- Seen through its pointers, the table in the vector is the memo table. -/
theorem vecFetch_refines (v : Vec α) (k : κ) (make : Except ε α) :
    (v.fetch key grow k make).map (fun r => (r.2.deref r.1, r.2.elems)) =
      (fetch key v.elems k make).map (fun r => (some r.1, r.2)) := by
  cases served : v.fetch key grow k make with
  | ok r =>
    obtain ⟨p, v'⟩ := r
    rcases vecFetch_cases key grow served with ⟨rfl, a, held, denotes⟩ | ⟨a, made, absent, rfl, denotes⟩
    · simp [fetch, held, denotes, Except.map]
    · simp [fetch, absent, made, denotes, Except.map]
  | error e =>
    unfold Vec.fetch at served
    split at served
    · cases served
    · rename_i place
      have absent : lookup key v.elems k = none := find_none place
      cases make with
      | error e' => cases served; simp [fetch, absent, Except.map]
      | ok a => cases served

omit [DecidableEq κ] in
/-- Elements with keys of their own, all from a list, are no more than the list has. -/
theorem length_le_of_keys (ks : List κ) {table : List α} (distinct : (table.map key).Nodup)
    (known : ∀ a ∈ table, key a ∈ ks) : table.length ≤ ks.length := by
  have within : table.map key ⊆ ks := by
    intro k member
    obtain ⟨a, held, rfl⟩ := List.mem_map.mp member
    exact known a held
  simpa using (List.subperm_of_subset distinct within).length_le

/-- A value under a key that the table does not have keeps its keys distinct. -/
theorem nodup_append_of_absent {table : List α} {a : α} (distinct : (table.map key).Nodup)
    (absent : lookup key table (key a) = none) : ((table ++ [a]).map key).Nodup := by
  rw [List.map_append, List.nodup_append]
  refine ⟨distinct, by simp, ?_⟩
  intro k old k' new same
  obtain ⟨b, held, rfl⟩ := List.mem_map.mp old
  have own : key b = key a := by simpa [same] using new
  exact absurd own (by simpa using List.find?_eq_none.mp absent b held)

end
end AutowareAgent.Vectors
