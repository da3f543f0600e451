import Mathlib.Data.List.Infix

/-!
Memo tables: a list of values, each under the key it carries, that only grows at
its end and answers with the first value under a key. Whatever requests a table
has served, it answers for a key with the value that the first of them made.
-/
namespace AutowareAgent.Memo
universe u v w

section
variable {κ : Type u} {α : Type v} {ε : Type w} [DecidableEq κ] (key : α → κ)

/-- The first value of the table under the key. -/
def lookup (table : List α) (k : κ) : Option α := table.find? (fun a => key a = k)

/-- The value under the key, made and appended when the table has none, and the
    table afterwards. -/
def fetch (table : List α) (k : κ) (make : Except ε α) : Except ε (α × List α) :=
  match lookup key table k with
  | some a => .ok (a, table)
  | none => make.map (fun a => (a, table ++ [a]))

/-- The table after a request, which a failed `make` leaves alone. -/
def remember (table : List α) (request : κ × Except ε α) : List α :=
  match fetch key table request.1 request.2 with
  | .ok (_, after) => after
  | .error _ => table

theorem lookup_append (table more : List α) (k : κ) :
    lookup key (table ++ more) k = (lookup key table k).or (lookup key more k) :=
  List.find?_append

/-- A longer table answers for a key it held before as it did. -/
theorem lookup_grown {table table' : List α} (grown : table <+: table') {k : κ} {a : α}
    (held : lookup key table k = some a) : lookup key table' k = some a := by
  obtain ⟨more, rfl⟩ := grown
  rw [lookup_append, held, Option.some_or]

theorem key_of_lookup {table : List α} {k : κ} {a : α} (held : lookup key table k = some a) : key a = k := by
  simpa [lookup] using List.find?_some held

theorem lookup_append_self {table : List α} {k : κ} {a : α} (absent : lookup key table k = none)
    (own : key a = k) : lookup key (table ++ [a]) k = some a := by
  rw [lookup_append, absent, Option.none_or]
  simp [lookup, own]

theorem fetch_grows {table after : List α} {k : κ} {make : Except ε α} {a : α}
    (served : fetch key table k make = .ok (a, after)) : table <+: after := by
  unfold fetch at served
  split at served
  · cases served; exact List.prefix_rfl
  · cases make with
    | error e => cases served
    | ok b => cases served; exact List.prefix_append _ _

/-- The value a request answers with is the one the table holds afterwards. -/
theorem fetch_held {table after : List α} {k : κ} {make : Except ε α} (own : ∀ a, make = .ok a → key a = k)
    {a : α} (served : fetch key table k make = .ok (a, after)) : lookup key after k = some a := by
  unfold fetch at served
  split at served
  · rename_i b held
    cases served
    exact held
  · rename_i absent
    cases make with
    | error e => cases served
    | ok b => cases served; exact lookup_append_self key absent (own _ rfl)

/-- After one request the table answers as before, and for the key of the
    request with what it made when there was no answer. -/
theorem lookup_remember (table : List α) (request : κ × Except ε α)
    (own : ∀ a, request.2 = .ok a → key a = request.1) (k : κ) :
    lookup key (remember key table request) k =
      (lookup key table k).or (if request.1 = k then request.2.toOption else none) := by
  obtain ⟨asked, make⟩ := request
  cases held : lookup key table asked with
  | some a =>
    by_cases same : asked = k
    · subst same
      simp [remember, fetch, held]
    · simp [remember, fetch, held, same]
  | none =>
    cases make with
    | error e => simp [remember, fetch, held, Except.map, Except.toOption]
    | ok b =>
      have made : key b = asked := own b rfl
      by_cases same : asked = k
      · subst same
        simp [remember, fetch, held, Except.map, Except.toOption, lookup_append_self key held made]
      · have other : lookup key [b] k = none := by simp [lookup, made, same]
        simp [remember, fetch, held, Except.map, lookup_append, other, same]

/-- A request finds the value under its key, fails, or appends what it makes under
    a key that the table did not have. -/
theorem remember_cases (table : List α) (request : κ × Except ε α) :
    remember key table request = table ∨
    ∃ a, request.2 = .ok a ∧ lookup key table request.1 = none ∧ remember key table request = table ++ [a] := by
  obtain ⟨asked, make⟩ := request
  cases held : lookup key table asked with
  | some a => exact .inl (by simp [remember, fetch, held])
  | none =>
    cases make with
    | error e => exact .inl (by simp [remember, fetch, held, Except.map])
    | ok a => exact .inr ⟨a, rfl, rfl, by simp [remember, fetch, held, Except.map]⟩

/-- After any requests a table that began empty answers for a key with what the
    first successful request for it made. -/
theorem lookup_foldl_remember (requests : List (κ × Except ε α))
    (own : ∀ r ∈ requests, ∀ a, r.2 = .ok a → key a = r.1) (k : κ) :
    lookup key (requests.foldl (remember key) []) k =
      requests.findSome? (fun r => if r.1 = k then r.2.toOption else none) := by
  have general : ∀ table : List α, lookup key (requests.foldl (remember key) table) k =
      (lookup key table k).or (requests.findSome? (fun r => if r.1 = k then r.2.toOption else none)) := by
    induction requests with
    | nil => intro table; simp
    | cons r rest ih =>
      intro table
      rw [List.foldl_cons, ih (fun r' member => own r' (List.mem_cons_of_mem _ member)),
        lookup_remember key table r (own r List.mem_cons_self), Option.or_assoc]
      congr 1
      cases made : (if r.1 = k then r.2.toOption else none) with
      | none => simp [made]
      | some a => simp [made]
  simpa [lookup] using general []

end
end AutowareAgent.Memo
