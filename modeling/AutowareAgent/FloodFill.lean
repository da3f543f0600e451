import Mathlib.Data.List.Nodup
import Mathlib.Data.List.Perm.Subperm
import Mathlib.Data.Set.Basic
import Mathlib.Logic.Relation

/-!
A flood fill over a finite graph whose edges go both ways: a loop over the nodes
starts a search from each node that is to be kept and was not seen, and the
searches share what they have seen. What it collects are the classes of
connected nodes that have a node to be kept.
-/
namespace AutowareAgent.FloodFill
universe u v

section
variable {α : Type u} {κ : Type v} [DecidableEq κ]

/-- A node is queued where its key was not seen. -/
def offer (key : α → κ) (s : List κ × List α) (n : α) : List κ × List α :=
  if key n ∈ s.1 then s else (key n :: s.1, s.2 ++ [n])

/-- The loop over the queue, which returns the keys seen and those of the nodes visited. -/
def flood (key : α → κ) (next : α → List α) : ℕ → List κ → List α → List κ → Option (List κ × List κ)
  | 0, _, _, _ => none
  | _ + 1, visited, [], component => some (visited, component)
  | fuel + 1, visited, current :: queue, component =>
    let s := (next current).foldl (offer key) (visited, queue)
    flood key next fuel s.1 s.2 (component ++ [key current])

/-- The loop over the nodes. -/
def cover (key : α → κ) (next : α → List α) (kept : α → Bool) (fuel : ℕ) :
    List α → List κ → List (List κ) → Option (List (List κ))
  | [], _, components => some components
  | n :: rest, visited, components =>
    if kept n = false then cover key next kept fuel rest visited components
    else if key n ∈ visited then cover key next kept fuel rest visited components
    else match flood key next fuel (key n :: visited) [n] [] with
      | none => none
      | some (visited, component) => cover key next kept fuel rest visited (components ++ [component])

end

section
variable {α : Type u} {κ : Type v}

/-- Any number of edges leads from one node to the other. -/
def Reaches (next : α → List α) : α → α → Prop := Relation.ReflTransGen fun a b => b ∈ next a

/-- The keys of the nodes that are reached. -/
def classOf (key : α → κ) (next : α → List α) (a : α) : Set κ := {k | ∃ b, Reaches next a b ∧ key b = k}

/-- A graph on the nodes, each with a key of its own, whose edges go both ways. -/
structure Undirected (key : α → κ) (next : α → List α) (nodes : List α) : Prop where
  distinct : (nodes.map key).Nodup
  inside : ∀ a ∈ nodes, ∀ b ∈ next a, b ∈ nodes
  back : ∀ a ∈ nodes, ∀ b ∈ next a, a ∈ next b

/-- Lists of keys as a set of sets. -/
def asSets (components : List (List κ)) : Set (Set κ) := {S | ∃ component ∈ components, S = {k | k ∈ component}}

/-- The lists have no key twice and none in common, and are the classes that have a node to be kept. -/
structure Components (key : α → κ) (next : α → List α) (kept : α → Bool) (nodes : List α)
    (components : List (List κ)) : Prop where
  distinct : ∀ component ∈ components, component.Nodup
  disjoint : components.Pairwise List.Disjoint
  classes : asSets components = {S | ∃ a ∈ nodes, kept a = true ∧ S = classOf key next a}

end

/-! ### Connected nodes -/

section
variable {α : Type u} {κ : Type v} {key : α → κ} {next : α → List α} {nodes : List α} {a b : α}

theorem Undirected.same (graph : Undirected key next nodes) (first : a ∈ nodes) (second : b ∈ nodes)
    (keys : key a = key b) : a = b :=
  List.inj_on_of_nodup_map graph.distinct first second keys

theorem Undirected.reaches_inside (graph : Undirected key next nodes) (member : a ∈ nodes)
    (reached : Reaches next a b) : b ∈ nodes := by
  induction reached with
  | refl => exact member
  | tail _ edge inside => exact graph.inside _ inside _ edge

theorem Undirected.reaches_symm (graph : Undirected key next nodes) (member : a ∈ nodes)
    (reached : Reaches next a b) : Reaches next b a := by
  induction reached with
  | refl => exact .refl
  | tail earlier edge turned => exact .head (graph.back _ (graph.reaches_inside member earlier) _ edge) turned

/-- Connected nodes are of one class. -/
theorem Undirected.classOf_eq (graph : Undirected key next nodes) (member : a ∈ nodes)
    (reached : Reaches next a b) : classOf key next b = classOf key next a := by
  ext k
  constructor
  · rintro ⟨c, onward, rfl⟩
    exact ⟨c, reached.trans onward, rfl⟩
  · rintro ⟨c, onward, rfl⟩
    exact ⟨c, (graph.reaches_symm member reached).trans onward, rfl⟩

theorem asSets_perm {components result : List (List κ)} (same : result.Perm components) :
    asSets result = asSets components := by
  ext S
  constructor
  · rintro ⟨component, member, shown⟩
    exact ⟨component, same.mem_iff.mp member, shown⟩
  · rintro ⟨component, member, shown⟩
    exact ⟨component, same.mem_iff.mpr member, shown⟩

/-- The order of the lists does not matter. -/
theorem Components.perm {kept : α → Bool} {components result : List (List κ)}
    (found : Components key next kept nodes components) (same : result.Perm components) :
    Components key next kept nodes result where
  distinct component member := found.distinct component (same.mem_iff.mp member)
  disjoint := (same.pairwise_iff fun apart => List.disjoint_symm apart).mpr found.disjoint
  classes := (asSets_perm same).trans found.classes

end

/-! ### One node visited -/

section
variable {α : Type u} {κ : Type v} [DecidableEq κ] {key : α → κ}

/-- What the neighbours add to the keys seen and to the queue. -/
structure Offered (key : α → κ) (neighbours : List α) (before after : List κ × List α) (new : List α) : Prop where
  queued : after.2 = before.2 ++ new
  marked : ∀ k, k ∈ after.1 ↔ k ∈ before.1 ∨ k ∈ new.map key
  distinct : (new.map key).Nodup
  unseen : ∀ n ∈ new, key n ∉ before.1
  among : ∀ n ∈ new, n ∈ neighbours
  complete : ∀ n ∈ neighbours, key n ∈ after.1

theorem offers (key : α → κ) (neighbours : List α) (s : List κ × List α) :
    ∃ new, Offered key neighbours s (neighbours.foldl (offer key) s) new := by
  induction neighbours generalizing s with
  | nil => exact ⟨[], by simp, by simp, by simp, by simp, by simp, by simp⟩
  | cons n rest ih =>
    rw [List.foldl_cons]
    obtain ⟨new, offered⟩ := ih (offer key s n)
    by_cases seen : key n ∈ s.1
    · have kept : offer key s n = s := if_pos seen
      rw [kept] at offered ⊢
      refine ⟨new, offered.queued, offered.marked, offered.distinct, offered.unseen, ?_, ?_⟩
      · intro m member
        exact List.mem_cons_of_mem n (offered.among m member)
      · intro m member
        rcases List.mem_cons.mp member with rfl | later
        · exact (offered.marked _).mpr (.inl seen)
        · exact offered.complete m later
    · have added : offer key s n = (key n :: s.1, s.2 ++ [n]) := if_neg seen
      rw [added] at offered ⊢
      refine ⟨n :: new, ?_, ?_, ?_, ?_, ?_, ?_⟩
      · rw [offered.queued, List.append_assoc, List.singleton_append]
      · intro k
        rw [offered.marked, List.map_cons, List.mem_cons, List.mem_cons]
        tauto
      · rw [List.map_cons, List.nodup_cons]
        refine ⟨?_, offered.distinct⟩
        intro twice
        obtain ⟨m, member, same⟩ := List.mem_map.mp twice
        exact offered.unseen m member (same ▸ List.mem_cons_self)
      · intro m member
        rcases List.mem_cons.mp member with rfl | later
        · exact seen
        · intro old
          exact offered.unseen m later (List.mem_cons_of_mem _ old)
      · intro m member
        rcases List.mem_cons.mp member with rfl | later
        · exact List.mem_cons_self
        · exact List.mem_cons_of_mem n (offered.among m later)
      · intro m member
        rcases List.mem_cons.mp member with rfl | later
        · exact (offered.marked _).mpr (.inl List.mem_cons_self)
        · exact offered.complete m later

end

/-! ### One search -/

section
variable {α : Type u} {κ : Type v} {key : α → κ} {next : α → List α} {nodes : List α}

/-- The state of a search: the nodes visited and the queue were reached and not
    seen before, and what is next to a visited node was seen. -/
structure Flooding (key : α → κ) (next : α → List α) (old : List κ) (start : α) (visited : List κ)
    (queue done : List α) : Prop where
  marked : ∀ k, k ∈ visited ↔ k ∈ old ∨ k ∈ (done ++ queue).map key
  distinct : ((done ++ queue).map key).Nodup
  fresh : ∀ b ∈ done ++ queue, key b ∉ old
  reached : ∀ b ∈ done ++ queue, Reaches next start b
  closed : ∀ b ∈ done, ∀ c ∈ next b, key c ∈ visited
  begun : start ∈ done ++ queue

theorem flooding_starts {old : List κ} {start : α} (unseen : key start ∉ old) :
    Flooding key next old start (key start :: old) [start] [] where
  marked k := by
    rw [List.nil_append, List.map_singleton, List.mem_singleton, List.mem_cons, or_comm]
  distinct := List.nodup_singleton _
  fresh b member := List.mem_singleton.mp member ▸ unseen
  reached b member := List.mem_singleton.mp member ▸ .refl
  closed b member := absurd member List.not_mem_nil
  begun := List.mem_singleton_self start

variable {old visited : List κ} {start current : α} {queue done : List α}

/-- A visit takes the front of the queue and queues what is new next to it. -/
theorem Flooding.visit {new : List α} {after : List κ × List α}
    (search : Flooding key next old start visited (current :: queue) done)
    (offered : Offered key (next current) (visited, queue) after new) :
    Flooding key next old start after.1 after.2 (done ++ [current]) := by
  have front : current ∈ done ++ current :: queue := List.mem_append_right done List.mem_cons_self
  have split : (done ++ [current]) ++ after.2 = (done ++ current :: queue) ++ new := by
    rw [offered.queued]
    simp
  have keys : ((done ++ [current]) ++ after.2).map key = (done ++ current :: queue).map key ++ new.map key := by
    rw [split, List.map_append]
  constructor
  · intro k
    rw [offered.marked, search.marked, keys, List.mem_append, or_assoc]
  · rw [keys, List.nodup_append]
    refine ⟨search.distinct, offered.distinct, ?_⟩
    rintro k before _ later rfl
    obtain ⟨n, member, rfl⟩ := List.mem_map.mp later
    exact offered.unseen n member ((search.marked _).mpr (.inr before))
  · intro b member
    rw [split] at member
    rcases List.mem_append.mp member with before | later
    · exact search.fresh b before
    · intro seen
      exact offered.unseen b later ((search.marked _).mpr (.inl seen))
  · intro b member
    rw [split] at member
    rcases List.mem_append.mp member with before | later
    · exact search.reached b before
    · exact .tail (search.reached current front) (offered.among b later)
  · intro b member c edge
    rcases List.mem_append.mp member with before | last
    · exact (offered.marked _).mpr (.inl (search.closed b before c edge))
    · cases List.mem_singleton.mp last
      exact offered.complete c edge
  · rw [split]
    exact List.mem_append_left new search.begun

/-- A visited node is a node, and no more nodes are visited than there are. -/
theorem Flooding.bounded (graph : Undirected key next nodes) (member : start ∈ nodes)
    (search : Flooding key next old start visited queue done) : (done ++ queue).length ≤ nodes.length := by
  have inside : (done ++ queue).map key ⊆ nodes.map key := by
    intro k shown
    obtain ⟨b, held, rfl⟩ := List.mem_map.mp shown
    exact List.mem_map_of_mem (graph.reaches_inside member (search.reached b held))
  have shorter := (search.distinct.subperm inside).length_le
  rwa [List.length_map, List.length_map] at shorter

/-- With enough fuel a search ends with an empty queue. -/
theorem flood_ends [DecidableEq κ] (graph : Undirected key next nodes) (member : start ∈ nodes) (fuel : ℕ)
    (search : Flooding key next old start visited queue done) (enough : nodes.length < fuel + done.length) :
    ∃ visited' done', flood key next fuel visited queue (done.map key) = some (visited', done'.map key) ∧
      Flooding key next old start visited' [] done' := by
  induction fuel generalizing visited queue done with
  | zero =>
    have bounded := search.bounded graph member
    rw [List.length_append] at bounded
    omega
  | succ fuel ih =>
    cases queue with
    | nil => exact ⟨visited, done, rfl, search⟩
    | cons current queue =>
      obtain ⟨new, offered⟩ := offers key (next current) (visited, queue)
      have visits := search.visit offered
      have shown : done.map key ++ [key current] = (done ++ [current]).map key := by
        rw [List.map_append, List.map_singleton]
      unfold flood
      rw [shown]
      apply ih visits
      rw [List.length_append, List.length_singleton]
      omega

/-- A search that has ended has visited what is reached from its start. -/
theorem Flooding.complete (graph : Undirected key next nodes) (member : start ∈ nodes)
    (search : Flooding key next old start visited [] done)
    (settled : ∀ b ∈ nodes, key b ∈ old → ∀ c ∈ next b, key c ∈ old) {b : α} (reached : Reaches next start b) :
    b ∈ done := by
  have none := List.append_nil done
  induction reached with
  | refl => exact none ▸ search.begun
  | @tail b c earlier edge visitedBefore =>
    have inside := graph.reaches_inside member earlier
    have insideNext := graph.inside b inside c edge
    rcases (search.marked _).mp (search.closed b visitedBefore c edge) with seen | shown
    · -- the searches before had left by the edge back
      have returned := settled c insideNext seen b (graph.back b inside c edge)
      exact absurd returned (search.fresh b (none.symm ▸ visitedBefore))
    · rw [none] at shown
      obtain ⟨d, held, same⟩ := List.mem_map.mp shown
      have insideDone := graph.reaches_inside member (search.reached d (none.symm ▸ held))
      exact graph.same insideDone insideNext same ▸ held

/-- A search collects the class of its start. -/
theorem flood_collects [DecidableEq κ] (graph : Undirected key next nodes) (member : start ∈ nodes)
    (unseen : key start ∉ old) (settled : ∀ b ∈ nodes, key b ∈ old → ∀ c ∈ next b, key c ∈ old) {fuel : ℕ}
    (enough : nodes.length < fuel) :
    ∃ visited component, flood key next fuel (key start :: old) [start] [] = some (visited, component) ∧
      component.Nodup ∧ {k | k ∈ component} = classOf key next start ∧
      ∀ k, k ∈ visited ↔ k ∈ old ∨ k ∈ component := by
  obtain ⟨visited, done, ended, search⟩ :=
    flood_ends graph member fuel (flooding_starts unseen) (by simpa using enough)
  have none := List.append_nil done
  refine ⟨visited, done.map key, ended, none ▸ search.distinct, ?_, ?_⟩
  · ext k
    constructor
    · intro shown
      obtain ⟨b, held, same⟩ := List.mem_map.mp shown
      exact ⟨b, search.reached b (none.symm ▸ held), same⟩
    · rintro ⟨b, reached, rfl⟩
      exact List.mem_map_of_mem (search.complete graph member settled reached)
  · intro k
    rw [search.marked, none]

end

/-! ### All searches -/

section
variable {α : Type u} {κ : Type v} {key : α → κ} {next : α → List α} {kept : α → Bool} {nodes done : List α}
variable {visited : List κ} {components : List (List κ)}

/-- The state of the loop over the nodes, of which some are done. -/
structure Covering (key : α → κ) (next : α → List α) (kept : α → Bool) (nodes done : List α) (visited : List κ)
    (components : List (List κ)) : Prop where
  marked : ∀ k, k ∈ visited ↔ ∃ component ∈ components, k ∈ component
  distinct : ∀ component ∈ components, component.Nodup
  disjoint : components.Pairwise List.Disjoint
  classes : ∀ component ∈ components, ∃ a ∈ nodes, kept a = true ∧ {k | k ∈ component} = classOf key next a
  covered : ∀ a ∈ done, kept a = true → key a ∈ visited

theorem covering_starts : Covering key next kept nodes [] [] [] where
  marked k := by simp
  distinct component member := absurd member List.not_mem_nil
  disjoint := .nil
  classes component member := absurd member List.not_mem_nil
  covered a member := absurd member List.not_mem_nil

/-- The list of a node that was seen is its class. -/
theorem Covering.seen {b : α} (covering : Covering key next kept nodes done visited components)
    (graph : Undirected key next nodes) (member : b ∈ nodes) (seen : key b ∈ visited) :
    ∃ component ∈ components, {k | k ∈ component} = classOf key next b := by
  obtain ⟨component, found, shown⟩ := (covering.marked _).mp seen
  obtain ⟨a, inside, _, same⟩ := covering.classes component found
  have reached : key b ∈ classOf key next a := same ▸ shown
  obtain ⟨d, onward, keys⟩ := reached
  cases graph.same (graph.reaches_inside inside onward) member keys
  exact ⟨component, found, same.trans (graph.classOf_eq inside onward).symm⟩

/-- What a node that was seen is connected to was seen. -/
theorem Covering.seen_reaches {b c : α} (covering : Covering key next kept nodes done visited components)
    (graph : Undirected key next nodes) (member : b ∈ nodes) (seen : key b ∈ visited)
    (reached : Reaches next b c) : key c ∈ visited := by
  obtain ⟨component, found, same⟩ := covering.seen graph member seen
  have collected : key c ∈ {k | k ∈ component} := same ▸ ⟨c, reached, rfl⟩
  exact (covering.marked _).mpr ⟨component, found, collected⟩

/-- A node that is not to be kept, or was seen, starts no search. -/
theorem Covering.skip {n : α} (covering : Covering key next kept nodes done visited components)
    (skipped : kept n = true → key n ∈ visited) : Covering key next kept nodes (done ++ [n]) visited components where
  marked := covering.marked
  distinct := covering.distinct
  disjoint := covering.disjoint
  classes := covering.classes
  covered a member keeps := by
    rcases List.mem_append.mp member with before | last
    · exact covering.covered a before keeps
    · cases List.mem_singleton.mp last
      exact skipped keeps

/-- What a search collects has nothing in common with what was seen before. -/
theorem Covering.collect {n : α} {visited' component : List κ}
    (covering : Covering key next kept nodes done visited components) (graph : Undirected key next nodes)
    (member : n ∈ nodes) (keeps : kept n = true) (unseen : key n ∉ visited) (distinct : component.Nodup)
    (collected : {k | k ∈ component} = classOf key next n)
    (marked : ∀ k, k ∈ visited' ↔ k ∈ visited ∨ k ∈ component) :
    Covering key next kept nodes (done ++ [n]) visited' (components ++ [component]) := by
  constructor
  · intro k
    rw [marked, covering.marked]
    simp only [List.mem_append, List.mem_singleton, or_and_right, exists_or, exists_eq_left]
  · intro other found
    rcases List.mem_append.mp found with before | last
    · exact covering.distinct other before
    · exact List.mem_singleton.mp last ▸ distinct
  · rw [List.pairwise_append]
    refine ⟨covering.disjoint, List.pairwise_singleton _ _, ?_⟩
    intro other before last' last k held shown
    cases List.mem_singleton.mp last
    -- from a node in common the start would have been reached before
    have reached : k ∈ classOf key next n := collected ▸ shown
    obtain ⟨b, onward, rfl⟩ := reached
    have seen : key b ∈ visited := (covering.marked _).mpr ⟨other, before, held⟩
    have inside := graph.reaches_inside member onward
    exact unseen (covering.seen_reaches graph inside seen (graph.reaches_symm member onward))
  · intro other found
    rcases List.mem_append.mp found with before | last
    · exact covering.classes other before
    · cases List.mem_singleton.mp last
      exact ⟨n, member, keeps, collected⟩
  · intro a held keeps'
    rcases List.mem_append.mp held with before | last
    · exact (marked _).mpr (.inl (covering.covered a before keeps'))
    · cases List.mem_singleton.mp last
      have shown : key n ∈ {k | k ∈ component} := collected ▸ ⟨n, .refl, rfl⟩
      exact (marked _).mpr (.inr shown)

/-- When every node is done, the lists are the components. -/
theorem Covering.ended (graph : Undirected key next nodes) (all : ∀ a ∈ nodes, a ∈ done)
    (covering : Covering key next kept nodes done visited components) :
    Components key next kept nodes components where
  distinct := covering.distinct
  disjoint := covering.disjoint
  classes := by
    ext S
    constructor
    · rintro ⟨component, found, rfl⟩
      exact covering.classes component found
    · rintro ⟨a, member, keeps, rfl⟩
      obtain ⟨component, found, same⟩ := covering.seen graph member (covering.covered a (all a member) keeps)
      exact ⟨component, found, same.symm⟩

/-- With enough fuel the loop over the nodes ends with the components. -/
theorem cover_ends [DecidableEq κ] (graph : Undirected key next nodes) {fuel : ℕ} (enough : nodes.length < fuel)
    (rest : List α) (inside : ∀ a ∈ rest, a ∈ nodes) (all : ∀ a ∈ nodes, a ∈ done ++ rest)
    (covering : Covering key next kept nodes done visited components) :
    ∃ found, cover key next kept fuel rest visited components = some found ∧
      Components key next kept nodes found := by
  induction rest generalizing done visited components with
  | nil =>
    refine ⟨components, rfl, covering.ended graph ?_⟩
    intro a member
    simpa using all a member
  | cons n rest ih =>
    have later : ∀ a ∈ rest, a ∈ nodes := fun a member => inside a (List.mem_cons_of_mem n member)
    have step : ∀ a ∈ nodes, a ∈ (done ++ [n]) ++ rest := by
      intro a member
      simpa using all a member
    unfold cover
    by_cases drops : kept n = false
    · rw [if_pos drops]
      refine ih later step (covering.skip ?_)
      intro keeps
      rw [drops] at keeps
      cases keeps
    · rw [if_neg drops]
      have keeps : kept n = true := Bool.eq_true_of_not_eq_false drops
      by_cases seen : key n ∈ visited
      · rw [if_pos seen]
        exact ih later step (covering.skip fun _ => seen)
      · rw [if_neg seen]
        have member : n ∈ nodes := inside n List.mem_cons_self
        have settled : ∀ b ∈ nodes, key b ∈ visited → ∀ c ∈ next b, key c ∈ visited := by
          intro b held old c edge
          exact covering.seen_reaches graph held old (.single edge)
        obtain ⟨visited', component, ended, distinct, collected, marked⟩ :=
          flood_collects graph member seen settled enough
        rw [ended]
        exact ih later step (covering.collect graph member keeps seen distinct collected marked)

/-- Whatever the order of the nodes, the loop over them finds the components. -/
theorem cover_finds [DecidableEq κ] (kept : α → Bool) (graph : Undirected key next nodes) {fuel : ℕ}
    (enough : nodes.length < fuel) {order : List α} (iterated : order.Perm nodes) :
    ∃ found, cover key next kept fuel order [] [] = some found ∧ Components key next kept nodes found := by
  apply cover_ends graph enough order _ _ covering_starts
  · intro a member
    exact iterated.mem_iff.mp member
  · intro a member
    exact iterated.mem_iff.mpr member

end

end AutowareAgent.FloodFill
