import AutowareAgent.Machines
import Mathlib.Data.List.Induction
import Mathlib.Data.List.Pairwise
import Mathlib.Data.List.Perm.Basic

/-!
Boards, on which every message overwrites the earlier ones of its topic and leaves
those of other topics alone. What a board shows depends on the latest message of
each topic only: not on the order between the topics, nor on the messages that
were overwritten. Then machines that keep a board and send it out at every tick.
-/
namespace AutowareAgent.Boards
open AutowareAgent.Machines
universe u v w x y

structure Board (σ : Type u) (μ : Type v) (τ : Type w) where
  write : σ → μ → σ
  topic : μ → τ
  overwrites : ∀ {m m' : μ}, topic m = topic m' → ∀ s, write (write s m) m' = write s m'
  commutes : ∀ {m m' : μ}, topic m ≠ topic m' → ∀ s, write (write s m) m' = write (write s m') m

section
variable {σ : Type u} {μ : Type v} {τ : Type w} (B : Board σ μ τ)

/-- The board after some messages, the first one first. -/
def Board.shows (s : σ) (msgs : List μ) : σ := msgs.foldl B.write s

variable {B} in
/-- A message that will be overwritten need not be written. -/
theorem shows_overwritten {m : μ} {msgs : List μ} : ∀ {s : σ}, (∃ m' ∈ msgs, B.topic m = B.topic m') →
    B.shows (B.write s m) msgs = B.shows s msgs := by
  induction msgs with
  | nil =>
    rintro s ⟨m', member, _⟩
    cases member
  | cons first rest ih =>
    rintro s ⟨m', member, same⟩
    by_cases here : B.topic m = B.topic first
    · exact congrArg (B.shows · rest) (B.overwrites here s)
    · have later : m' ∈ rest := by
        rcases List.mem_cons.mp member with rfl | later
        · exact absurd same here
        · exact later
      calc B.shows (B.write s m) (first :: rest)
          = B.shows (B.write (B.write s first) m) rest := congrArg (B.shows · rest) (B.commutes here s)
        _ = B.shows s (first :: rest) := ih ⟨m', later, same⟩

variable {B} in
/-- What is written by some of the messages is as the last of these wrote it. -/
theorem view_last {α β : Type*} (view : σ → α) (part : μ → Option β) (put : β → α)
    (writes : ∀ s m, view (B.write s m) = ((part m).map put).getD (view s)) (s : σ) (msgs : List μ) :
    view (B.shows s msgs) = ((msgs.filterMap part).getLast?.map put).getD (view s) := by
  induction msgs using List.reverseRecOn with
  | nil => rfl
  | append_singleton msgs m ih =>
    have last : B.shows s (msgs ++ [m]) = B.write (B.shows s msgs) m := by simp [Board.shows]
    rw [last, writes, ih, List.filterMap_append]
    cases own : part m <;> simp [own]

variable [DecidableEq τ]

/-- The latest of some messages on a topic. -/
def Board.latest (t : τ) (msgs : List μ) : Option μ := msgs.reverse.find? fun m => B.topic m = t

/-- The messages that no later one overwrites. -/
def Board.standing (msgs : List μ) : List μ := msgs.pwFilter fun m m' => B.topic m ≠ B.topic m'

variable {B}

theorem latest_cons (t : τ) (m : μ) (msgs : List μ) :
    B.latest t (m :: msgs) = (B.latest t msgs).or (if B.topic m = t then some m else none) := by
  rw [Board.latest, List.reverse_cons, List.find?_append, Board.latest]
  congr 1
  by_cases own : B.topic m = t <;> simp [own]

theorem latest_topic {t : τ} {m : μ} {msgs : List μ} (found : B.latest t msgs = some m) : B.topic m = t := by
  simpa using List.find?_some found

theorem shows_standing (msgs : List μ) : ∀ s : σ, B.shows s (B.standing msgs) = B.shows s msgs := by
  induction msgs with
  | nil => exact fun _ => rfl
  | cons m rest ih =>
    intro s
    by_cases last : ∀ m' ∈ B.standing rest, B.topic m ≠ B.topic m'
    · rw [Board.standing, List.pwFilter_cons_of_pos last]
      exact ih (B.write s m)
    · rw [Board.standing, List.pwFilter_cons_of_neg last]
      push Not at last
      obtain ⟨m', member, same⟩ := last
      have later : m' ∈ rest := List.pwFilter_subset rest member
      exact (ih s).trans (shows_overwritten ⟨m', later, same⟩).symm

/-- The standing messages are the latest ones of their topics. -/
theorem mem_standing (msgs : List μ) : ∀ m : μ, m ∈ B.standing msgs ↔ B.latest (B.topic m) msgs = some m := by
  induction msgs with
  | nil => simp [Board.standing, Board.latest]
  | cons first rest ih =>
    intro m
    rw [latest_cons]
    by_cases last : ∀ m' ∈ B.standing rest, B.topic first ≠ B.topic m'
    · rw [Board.standing, List.pwFilter_cons_of_pos last, List.mem_cons]
      by_cases own : B.topic first = B.topic m
      · have alone : B.latest (B.topic m) rest = none := by
          cases found : B.latest (B.topic m) rest with
          | none => rfl
          | some m' =>
            have same := latest_topic found
            have stands : m' ∈ B.standing rest := (ih m').mpr (by rw [same, found])
            exact absurd (own.trans same.symm) (last m' stands)
        rw [alone, Option.none_or, if_pos own, Option.some_inj]
        constructor
        · rintro (rfl | stands)
          · rfl
          · exact absurd own (last m stands)
        · exact fun same => .inl same.symm
      · rw [if_neg own, Option.or_none]
        constructor
        · rintro (rfl | stands)
          · exact absurd rfl own
          · exact (ih m).mp stands
        · exact fun found => .inr ((ih m).mpr found)
    · rw [Board.standing, List.pwFilter_cons_of_neg last]
      push Not at last
      obtain ⟨m', stands, same⟩ := last
      have found := (ih m').mp stands
      by_cases own : B.topic first = B.topic m
      · rw [← own, same, found, Option.some_or, ← found, ← same, own]
        exact ih m
      · rw [if_neg own, Option.or_none]
        exact ih m

/-- Messages of which the latest ones of every topic are the same leave the same on a board. -/
theorem shows_eq_of_latest {msgs msgs' : List μ} (same : ∀ t, B.latest t msgs = B.latest t msgs') (s : σ) :
    B.shows s msgs = B.shows s msgs' := by
  have distinct : ∀ msgs, (B.standing msgs).Nodup := by
    intro msgs
    refine (List.pairwise_pwFilter msgs).imp ?_
    rintro m _ other rfl
    exact other rfl
  have perm : (B.standing msgs).Perm (B.standing msgs') := by
    refine (List.perm_ext_iff_of_nodup (distinct msgs) (distinct msgs')).mpr fun m => ?_
    rw [mem_standing, mem_standing, same]
  have swaps : ∀ m ∈ B.standing msgs, ∀ m' ∈ B.standing msgs, ∀ s, B.write (B.write s m) m' = B.write (B.write s m') m := by
    intro m stands m' stands' s
    by_cases topic : B.topic m = B.topic m'
    · have found := (mem_standing msgs m).mp stands
      rw [topic, (mem_standing msgs m').mp stands'] at found
      cases found
      rfl
    · exact B.commutes topic s
  calc B.shows s msgs = B.shows s (B.standing msgs) := (shows_standing msgs s).symm
    _ = B.shows s (B.standing msgs') := perm.foldl_eq' swaps s
    _ = B.shows s msgs' := shows_standing msgs' s

end

/-! ### Boards that are sent out -/

section
variable {S : Type u} {ι : Type v} {φ : Type w} {ε : Type x} {σ μ τ : Type y}

/-- A machine keeps a board: some inputs are messages for it, at every other one the
    machine sends out a frame of it under the next number. -/
structure Broadcast (M : Machine S ι φ ε) (B : Board σ μ τ) where
  board : S → σ
  seq : S → UInt64
  heard : ι → Option μ
  frame : ι → UInt64 → σ → φ
  initial : σ
  starts : ∀ {s : S}, M.Start s → board s = initial ∧ seq s = 0
  hears : ∀ {s s' : S} {i : ι} {os : List φ} {m : μ}, M.step s i = .ok (s', os) → heard i = some m →
    board s' = B.write (board s) m ∧ seq s' = seq s ∧ os = []
  ticks : ∀ {s s' : S} {i : ι} {os : List φ}, M.step s i = .ok (s', os) → heard i = none →
    board s' = board s ∧ seq s' = seq s + 1 ∧ os = [frame i (seq s) (board s)]

/-- A frame that is sent out right after some history. -/
def SentAfter (M : Machine S ι φ ε) (past : History S ι φ) (frame : φ) : Prop :=
  ∃ newer m s, Runs M (newer ++ m :: past) s ∧ frame ∈ m.outputs

variable {M : Machine S ι φ ε} {B : Board σ μ τ} (X : Broadcast M B)

/-- The messages of a run, in their order. -/
def Broadcast.messages (past : History S ι φ) : List μ := (inputs past).filterMap X.heard

/-- How many frames a run has sent out. -/
def Broadcast.sent (past : History S ι φ) : Nat := (inputs past).countP fun i => (X.heard i).isNone

variable {X}

theorem board_shows {past : History S ι φ} {s : S} (run : Runs M past s) :
    X.board s = B.shows X.initial (X.messages past) ∧ X.seq s = .ofNat (X.sent past) := by
  refine run.invariant
    (I := fun past s => X.board s = B.shows X.initial (X.messages past) ∧ X.seq s = .ofNat (X.sent past)) ?_ ?_
  · exact fun s first => X.starts first
  · intro past s i os s' _ ih stepped
    obtain ⟨shown, numbered⟩ := ih
    cases heard : X.heard i with
    | some m =>
      obtain ⟨written, same, _⟩ := X.hears stepped heard
      constructor
      · rw [written, shown]
        simp [Broadcast.messages, heard, Board.shows]
      · rw [same, numbered]
        simp [Broadcast.sent, heard]
    | none =>
      obtain ⟨still, next, _⟩ := X.ticks stepped heard
      constructor
      · rw [still, shown]
        simp [Broadcast.messages, heard]
      · rw [next, numbered]
        simp [Broadcast.sent, heard, UInt64.ofNat_add]

variable [DecidableEq τ]

omit [DecidableEq τ] in
/-- A frame that is sent out shows the messages before it. -/
theorem sentAfter_shows {past : History S ι φ} {frame : φ} (sent : SentAfter M past frame) :
    ∃ i, X.heard i = none ∧ frame = X.frame i (.ofNat (X.sent past)) (B.shows X.initial (X.messages past)) := by
  obtain ⟨newer, m, s, run, member⟩ := sent
  obtain ⟨_, whole⟩ := run.suffix
  obtain ⟨earlier, stepped, _⟩ := whole.inv
  obtain ⟨shown, numbered⟩ := board_shows (X := X) earlier
  cases heard : X.heard m.input with
  | some msg =>
    obtain ⟨_, _, silent⟩ := X.hears stepped heard
    rw [silent] at member
    cases member
  | none =>
    obtain ⟨_, _, out⟩ := X.ticks stepped heard
    rw [out] at member
    refine ⟨m.input, heard, ?_⟩
    rw [← shown, ← numbered]
    exact List.mem_singleton.mp member

/-- A frame is numbered by the frames before it, and shows what any messages would
    have left of which the latest ones of every topic are those of the run. -/
theorem frame_latest {newer older : History S ι φ} {m : Moment S ι φ} {s : S} (run : Runs M (newer ++ m :: older) s)
    (tick : X.heard m.input = none) {msgs : List μ} (same : ∀ t, B.latest t msgs = B.latest t (X.messages older)) :
    m.outputs = [X.frame m.input (.ofNat (X.sent older)) (B.shows X.initial msgs)] := by
  obtain ⟨_, whole⟩ := run.suffix
  obtain ⟨earlier, stepped, _⟩ := whole.inv
  obtain ⟨shown, numbered⟩ := board_shows (X := X) earlier
  obtain ⟨_, _, out⟩ := X.ticks stepped tick
  rw [out, shown, numbered, shows_eq_of_latest same]

end
end AutowareAgent.Boards
