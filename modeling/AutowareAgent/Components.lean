import AutowareAgent.FloodFill
import AutowareAgent.Lanes

/-!
`LaneletMap::debugConnectedComponents`. Lanelets that follow one another or lie
side by side are connected, and the searches do not skip those that are not
drivable; only no search starts at one. The lists are the classes of connected
lanelets that have a drivable one, whatever order the layer is iterated in.
-/
namespace AutowareAgent.Components
open AutowareAgent.Lanes AutowareAgent.FloodFill

section
variable {R : Type}

/-- What is asked of the routing graph. -/
structure RoutingGraph (R : Type) where
  following : Lanelet R → List (Lanelet R)
  previous : Lanelet R → List (Lanelet R)
  left : Lanelet R → Option (Lanelet R)
  right : Lanelet R → Option (Lanelet R)

/-- A neighbour is marked in `visited` and pushed to `to_visit`, unless it was visited. -/
def visit (s : List LaneId × List (Lanelet R)) (n : Lanelet R) : List LaneId × List (Lanelet R) :=
  if n.id ∈ s.1 then s else (n.id :: s.1, s.2 ++ [n])

/-- The neighbours of the current lanelet, in the order in which the loop asks for them. -/
def visitNeighbours (G : RoutingGraph R) (current : Lanelet R) (s : List LaneId × List (Lanelet R)) :
    List LaneId × List (Lanelet R) :=
  let s := (G.following current).foldl visit s
  let s := (G.previous current).foldl visit s
  let s := match G.left current with
    | some left => visit s left
    | none => s
  match G.right current with
  | some right => visit s right
  | none => s

/-- The loop until `to_visit` is empty. -/
def floodFill (G : RoutingGraph R) :
    ℕ → List LaneId → List (Lanelet R) → List LaneId → Option (List LaneId × List LaneId)
  | 0, _, _, _ => none
  | _ + 1, visited, [], component => some (visited, component)
  | fuel + 1, visited, current :: toVisit, component =>
    let s := visitNeighbours G current (visited, toVisit)
    floodFill G fuel s.1 s.2 (component ++ [current.id])

/-- The loop over the layer. -/
def collectComponents (G : RoutingGraph R) (fuel : ℕ) :
    List (Lanelet R) → List LaneId → List (List LaneId) → Option (List (List LaneId))
  | [], _, components => some components
  | ll :: rest, visited, components =>
    if drivable ll = false then collectComponents G fuel rest visited components
    else if ll.id ∈ visited then collectComponents G fuel rest visited components
    else match floodFill G fuel (ll.id :: visited) [ll] [] with
      | none => none
      | some (visited, component) => collectComponents G fuel rest visited (components ++ [component])

/-- `std::sort` by size. The order of lists of one size is not fixed. -/
structure SizeSort where
  sort : List (List LaneId) → List (List LaneId)
  perm : ∀ components, (sort components).Perm components
  descending : ∀ components, (sort components).Pairwise fun a b => b.length ≤ a.length

/-- The components that are listed for the layer in an order of iteration. -/
def debugConnectedComponents (sort : SizeSort) (G : RoutingGraph R) (fuel : ℕ) (order : List (Lanelet R)) :
    Option (List (List LaneId)) :=
  (collectComponents G fuel order [] []).map sort.sort

/-! ### What the components are -/

/-- One step in the routing graph. -/
inductive Adjacent (G : RoutingGraph R) (a b : Lanelet R) : Prop
  | following (edge : b ∈ G.following a)
  | previous (edge : b ∈ G.previous a)
  | left (edge : G.left a = some b)
  | right (edge : G.right a = some b)

/-- The reflexive and transitive closure of the four relations. -/
def Connected (G : RoutingGraph R) : Lanelet R → Lanelet R → Prop := Relation.ReflTransGen (Adjacent G)

/-- The identifiers of the lanelets that are connected to one. -/
def connectedTo (G : RoutingGraph R) (ll : Lanelet R) : Set LaneId :=
  {id | ∃ other, Connected G ll other ∧ other.id = id}

/-- A routing graph on the lanelets of a layer, with `previous` the inverse of
    `following` and `right` the inverse of `left`. -/
structure WellFormed (G : RoutingGraph R) (layer : List (Lanelet R)) : Prop where
  distinct : (layer.map Lanelet.id).Nodup
  inside : ∀ a ∈ layer, ∀ b, Adjacent G a b → b ∈ layer
  previous_iff : ∀ a ∈ layer, ∀ b ∈ layer, a ∈ G.previous b ↔ b ∈ G.following a
  right_iff : ∀ a ∈ layer, ∀ b ∈ layer, G.right b = some a ↔ G.left a = some b

/-- Connected lanelets form classes, and the lists have no identifier twice, none in
    common, and are the classes of the layer that have a drivable lanelet. -/
structure ConnectedComponents (G : RoutingGraph R) (layer : List (Lanelet R)) (result : List (List LaneId)) : Prop where
  equivalence : Equivalence fun a b : {ll // ll ∈ layer} => Connected G a.1 b.1
  distinct : ∀ component ∈ result, component.Nodup
  disjoint : result.Pairwise List.Disjoint
  classes : asSets result = {S | ∃ ll ∈ layer, drivable ll = true ∧ S = connectedTo G ll}

/-! ### The flood fill of a graph -/

/-- The neighbours of a lanelet as one list. -/
def neighbours (G : RoutingGraph R) (a : Lanelet R) : List (Lanelet R) :=
  G.following a ++ G.previous a ++ (G.left a).toList ++ (G.right a).toList

variable {G : RoutingGraph R} {layer : List (Lanelet R)}

theorem mem_neighbours {a b : Lanelet R} : b ∈ neighbours G a ↔ Adjacent G a b := by
  simp only [neighbours, List.mem_append, Option.mem_toList]
  constructor
  · rintro (((edge | edge) | edge) | edge)
    · exact .following edge
    · exact .previous edge
    · exact .left edge
    · exact .right edge
  · rintro (edge | edge | edge | edge)
    · exact .inl (.inl (.inl edge))
    · exact .inl (.inl (.inr edge))
    · exact .inl (.inr edge)
    · exact .inr edge

theorem connected_eq : Connected G = Reaches (neighbours G) := by
  have same : Adjacent G = fun a b => b ∈ neighbours G a := by
    funext a b
    exact propext mem_neighbours.symm
  unfold Connected Reaches
  rw [same]

theorem connectedTo_eq (ll : Lanelet R) : connectedTo G ll = classOf Lanelet.id (neighbours G) ll := by
  unfold connectedTo classOf
  rw [connected_eq]

theorem WellFormed.undirected (formed : WellFormed G layer) : Undirected Lanelet.id (neighbours G) layer where
  distinct := formed.distinct
  inside a member b edge := formed.inside a member b (mem_neighbours.mp edge)
  back a member b edge := by
    have step := mem_neighbours.mp edge
    have inside := formed.inside a member b step
    apply mem_neighbours.mpr
    cases step with
    | following edge => exact .previous ((formed.previous_iff a member b inside).mpr edge)
    | previous edge => exact .following ((formed.previous_iff b inside a member).mp edge)
    | left edge => exact .right ((formed.right_iff a member b inside).mpr edge)
    | right edge => exact .left ((formed.right_iff b inside a member).mp edge)

theorem visitNeighbours_eq (G : RoutingGraph R) (current : Lanelet R) (s : List LaneId × List (Lanelet R)) :
    visitNeighbours G current s = (neighbours G current).foldl (offer Lanelet.id) s := by
  have same : visit = offer (Lanelet.id (R := R)) := rfl
  rw [neighbours, List.foldl_append, List.foldl_append, List.foldl_append, ← same]
  unfold visitNeighbours
  cases G.left current with
  | none => cases G.right current <;> rfl
  | some left => cases G.right current <;> rfl

theorem floodFill_eq (G : RoutingGraph R) (fuel : ℕ) (visited : List LaneId) (toVisit : List (Lanelet R))
    (component : List LaneId) :
    floodFill G fuel visited toVisit component = flood Lanelet.id (neighbours G) fuel visited toVisit component := by
  induction fuel generalizing visited toVisit component with
  | zero => rfl
  | succ fuel ih =>
    cases toVisit with
    | nil => rfl
    | cons current toVisit =>
      unfold floodFill flood
      rw [visitNeighbours_eq]
      exact ih _ _ _

theorem collectComponents_eq (G : RoutingGraph R) (fuel : ℕ) (order : List (Lanelet R)) (visited : List LaneId)
    (components : List (List LaneId)) :
    collectComponents G fuel order visited components =
      cover Lanelet.id (neighbours G) drivable fuel order visited components := by
  induction order generalizing visited components with
  | nil => rfl
  | cons ll rest ih =>
    unfold collectComponents cover
    rw [floodFill_eq, ih]
    by_cases drops : drivable ll = false
    · rw [if_pos drops, if_pos drops]
    · rw [if_neg drops, if_neg drops]
      by_cases seen : ll.id ∈ visited
      · rw [if_pos seen, if_pos seen]
      · rw [if_neg seen, if_neg seen]
        cases flood Lanelet.id (neighbours G) fuel (ll.id :: visited) [ll] [] with
        | none => rfl
        | some found => exact ih _ _

end

section
variable {R : Type} {G : RoutingGraph R} {layer order : List (Lanelet R)} {fuel : ℕ}

theorem listed (sort : SizeSort) (formed : WellFormed G layer) (enough : layer.length < fuel)
    (iterated : order.Perm layer) :
    ∃ result, debugConnectedComponents sort G fuel order = some result ∧ ConnectedComponents G layer result := by
  have graph := formed.undirected
  obtain ⟨components, found, are⟩ := cover_finds drivable graph enough iterated
  have sorted := are.perm (sort.perm components)
  refine ⟨sort.sort components, ?_, ?_, sorted.distinct, sorted.disjoint, ?_⟩
  · unfold debugConnectedComponents
    rw [collectComponents_eq, found]
    rfl
  · rw [connected_eq]
    constructor
    · intro a
      exact .refl
    · intro a b reached
      exact graph.reaches_symm a.2 reached
    · intro a b c first second
      exact first.trans second
  · rw [sorted.classes]
    simp only [connectedTo_eq]

/-- The flood fill ends with the components of the layer, and with the same ones
    in every order of iteration. -/
theorem finds_components (sort : SizeSort) (formed : WellFormed G layer) (enough : layer.length < fuel)
    (iterated : order.Perm layer) :
    ∃ result, debugConnectedComponents sort G fuel order = some result ∧ ConnectedComponents G layer result ∧
      ∀ (sort' : SizeSort) (fuel' : ℕ) (order' : List (Lanelet R)), layer.length < fuel' → order'.Perm layer →
        ∃ result', debugConnectedComponents sort' G fuel' order' = some result' ∧ asSets result' = asSets result := by
  obtain ⟨result, shown, are⟩ := listed sort formed enough iterated
  refine ⟨result, shown, are, ?_⟩
  intro sort' fuel' order' enough' iterated'
  obtain ⟨result', shown', are'⟩ := listed sort' formed enough' iterated'
  exact ⟨result', shown', are'.classes.trans are.classes.symm⟩

end

/-! ### The street -/

/-- The sort that keeps the order of lists of one size. -/
def stableSort : SizeSort where
  sort components := components.mergeSort fun a b => decide (b.length ≤ a.length)
  perm components := List.mergeSort_perm components _
  descending components := by
    have sorted : (components.mergeSort fun a b => decide (b.length ≤ a.length)).Pairwise
        fun a b => decide (b.length ≤ a.length) = true := by
      apply List.pairwise_mergeSort
      · intro a b c first second
        rw [decide_eq_true_eq] at first second ⊢
        omega
      · intro a b
        rw [Bool.or_eq_true, decide_eq_true_eq, decide_eq_true_eq]
        omega
    simpa only [decide_eq_true_eq] using sorted

/-- On the street the second lane follows the first, and the crosswalk is beside the second. -/
def streetGraph : RoutingGraph ℚ where
  following ll := if ll.id = 101 then streetLanes.filter fun l => l.id = 102 else []
  previous ll := if ll.id = 102 then streetLanes.filter fun l => l.id = 101 else []
  left ll := if ll.id = 102 then streetLanes.find? fun l => l.id = 103 else none
  right ll := if ll.id = 103 then streetLanes.find? fun l => l.id = 102 else none

theorem streetGraph_formed : WellFormed streetGraph streetLanes where
  distinct := by decide
  inside a member b step := by
    cases step with
    | following edge | previous edge =>
      simp only [streetGraph] at edge
      split at edge
      · exact List.mem_of_mem_filter edge
      · cases edge
    | left edge | right edge =>
      simp only [streetGraph] at edge
      split at edge
      · exact List.mem_of_find?_eq_some edge
      · cases edge
  previous_iff := by decide
  right_iff := by decide

/-- The components of the street, iterated from its end. -/
theorem finds_components_on_street :
    ∃ result, debugConnectedComponents stableSort streetGraph 4 streetLanes.reverse = some result ∧
      ConnectedComponents streetGraph streetLanes result ∧
      ∀ (sort' : SizeSort) (fuel' : ℕ) (order' : List (Lanelet ℚ)), streetLanes.length < fuel' →
        order'.Perm streetLanes → ∃ result', debugConnectedComponents sort' streetGraph fuel' order' = some result' ∧
          asSets result' = asSets result :=
  finds_components stableSort streetGraph_formed (by decide) streetLanes.reverse_perm

-- no search starts at the crosswalk, but the one from the first lane reaches it
example : collectComponents streetGraph 4 streetLanes [] [] = some [[101, 102, 103]] := by decide

end AutowareAgent.Components
