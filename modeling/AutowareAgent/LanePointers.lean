import AutowareAgent.LaneCache
import AutowareAgent.Machines
import AutowareAgent.Vectors

/-!
The lane cache as it lies in memory. The lookups of `LaneletMap` return pointers
into the vector that the constructor reserves, and callers keep them. The vector
never reallocates: its entries have lanelets of their own, all in the layer, and
there is room for as many as the layer has.
-/
namespace AutowareAgent.LanePointers
open AutowareAgent.Machines AutowareAgent.Memo AutowareAgent.Vectors AutowareAgent.Lanes AutowareAgent.LaneCache

/-- The mutable members of `LaneletMap`, with the cache in memory. -/
structure CachedMap (R : Type) where
  cache : Vec (LaneInfo R)
  defaultStart : Option (FixedStartPosition R)

/-- The map as its constructor leaves it. -/
def CachedMap.constructed {R : Type} (D : MapData R) : CachedMap R where
  cache := Vec.empty.reserve D.laneletLayer.length
  defaultStart := none

/-- The map without its addresses. -/
def CachedMap.value {R : Type} (m : CachedMap R) : LaneletMap R := ⟨m.cache.elems, m.defaultStart⟩

section
variable {R : Type} [Zero R] [Add R] [Sub R] [Mul R] [Div R] [NatCast R] [LT R] [DecidableLT R] [CMath R]
variable (D : MapData R) (grow : Nat → Nat)

/-- The cached entry of the lane, or a new one for the GPS point. -/
def CachedMap.cachedLane (id : LaneId) (gps : GPSCoordinate R) (m : CachedMap R) :
    Except Fault (Ptr × CachedMap R) := do
  let (info, cache) ← m.cache.fetch LaneInfo.laneId grow id (do
    let ll ← getLanelet D id
    makeLaneInfo D ll gps)
  return (info, { m with cache := cache })

/-- `findNearestLane`. -/
def CachedMap.findNearestLane (gps : GPSCoordinate R) (m : CachedMap R) : Except Fault (Option Ptr × CachedMap R) :=
  match nearestLane D gps with
  | none => .ok (none, m)
  | some bestId => do
    let (info, m) ← m.cachedLane D grow bestId gps
    return (some info, m)

/-- `findNearestConnectedLane`. -/
def CachedMap.findNearestConnectedLane (gps : GPSCoordinate R) (referenceId : LaneId)
    (mustBeReachableFromRef : Bool) (m : CachedMap R) : Except Fault (Option Ptr × CachedMap R) := do
  match ← nearestConnectedLane D gps referenceId mustBeReachableFromRef with
  | none => return (none, m)
  | some bestId =>
    let (info, m) ← m.cachedLane D grow bestId gps
    return (some info, m)

/-- `getLaneById`. -/
def CachedMap.getLaneById (laneId : LaneId) (m : CachedMap R) : Except Fault (Option Ptr × CachedMap R) :=
  match m.cache.find fun cached => cached.laneId = laneId with
  | some cached => .ok (some cached, m)
  | none =>
    if D.laneletLayer.any (fun ll => ll.id = laneId) then do
      let (info, cache) ← m.cache.fetch LaneInfo.laneId grow laneId (makeLaneById D laneId)
      return (some info, { m with cache := cache })
    else .ok (none, m)

/-- `setDefaultStart`. -/
def CachedMap.setDefaultStart (name : String) (gps : GPSCoordinate R) (m : CachedMap R) :
    Except Fault (CachedMap R) := do
  let (lane, m) ← m.findNearestLane D grow gps
  let pos : FixedStartPosition R :=
    match lane.bind m.cache.deref with
    | some lane => ⟨name, gps, lane.localPoint, lane.orientation⟩
    | none => ⟨name, gps, gpsToLocal D gps, ⟨0, 0, 0, 0, 0⟩⟩
  return { m with defaultStart := some pos }

/-- The call, with the pointer that it returns. -/
def CachedMap.call (m : CachedMap R) : Call R → Except Fault (Option Ptr × CachedMap R)
  | .FindNearestLane gps => m.findNearestLane D grow gps
  | .FindNearestConnectedLane gps ref b => m.findNearestConnectedLane D grow gps ref b
  | .GetLaneById id => m.getLaneById D grow id
  | .SetDefaultStart name gps => (m.setDefaultStart D grow name gps).map fun m => (none, m)

/-- A call that throws leaves the map alone; one that reads what is not there has
    no further run. -/
def step (m : CachedMap R) (call : Call R) : Except Fault (CachedMap R × List Ptr) :=
  match m.call D grow call with
  | .ok (returned, m) => .ok (m, returned.toList)
  | .error .NoSuchPrimitive => .ok (m, [])
  | .error fault => .error fault

/-- The machine of the map's callers. -/
def machine : Machine (CachedMap R) (Call R) Ptr Fault where
  Start m := m = .constructed D
  step := step D grow

/-! ### The map without its addresses -/

variable {D grow} {m m' : CachedMap R}

omit [Zero R] [Add R] [Sub R] [Mul R] [Div R] [NatCast R] [LT R] [DecidableLT R] [CMath R] in
theorem map_then {α β γ : Type} (x : Except Fault α) (f : α → β) (g : β → γ) :
    (x.map f).map g = x.map fun a => g (f a) := by
  cases x <;> rfl

/-- What a lookup returns, without addresses. -/
def unaddressed (r : Option Ptr × CachedMap R) : Option (LaneInfo R) × LaneletMap R :=
  (r.1.bind r.2.cache.deref, r.2.value)

omit [Zero R] [Add R] [Sub R] [Mul R] [Div R] [NatCast R] [LT R] [DecidableLT R] [CMath R] in
/-- A request to the cache in memory is the request to the cache. -/
theorem fetch_refines (id : LaneId) (make : Except Fault (LaneInfo R)) :
    (m.cache.fetch LaneInfo.laneId grow id make).map
        (fun r => unaddressed (some r.1, { m with cache := r.2 })) =
      (fetch LaneInfo.laneId m.value.cache id make).map fun r => (some r.1, { m.value with cache := r.2 }) := by
  have same := vecFetch_refines LaneInfo.laneId grow m.cache id make
  have viewed := congrArg (Except.map fun r => (r.1, (⟨r.2, m.defaultStart⟩ : LaneletMap R))) same
  rw [map_then, map_then] at viewed
  exact viewed

theorem cachedLane_eq (id : LaneId) (gps : GPSCoordinate R) : m.cachedLane D grow id gps =
    (m.cache.fetch LaneInfo.laneId grow id (laneAt D id gps)).map fun r => (r.1, { m with cache := r.2 }) := by
  unfold CachedMap.cachedLane laneAt
  cases m.cache.fetch LaneInfo.laneId grow id (getLanelet D id >>= fun ll => makeLaneInfo D ll gps) <;> rfl

theorem cachedLane_refines (id : LaneId) (gps : GPSCoordinate R) :
    (m.cachedLane D grow id gps).map (fun r => unaddressed (some r.1, r.2)) =
      (Lanes.cachedLane D id gps m.value).map fun r => (some r.1, r.2) := by
  rw [cachedLane_eq, LaneCache.cachedLane_eq, map_then, map_then]
  exact fetch_refines id (laneAt D id gps)

theorem findNearestLane_refines (grow : Nat → Nat) (gps : GPSCoordinate R) :
    (m.findNearestLane D grow gps).map unaddressed = Lanes.findNearestLane D gps m.value := by
  unfold CachedMap.findNearestLane Lanes.findNearestLane
  cases nearestLane D gps with
  | none => rfl
  | some id => exact (map_then _ _ _).trans (cachedLane_refines id gps)

theorem findNearestConnectedLane_refines (grow : Nat → Nat) (gps : GPSCoordinate R) (ref : LaneId) (b : Bool) :
    (m.findNearestConnectedLane D grow gps ref b).map unaddressed =
      Lanes.findNearestConnectedLane D gps ref b m.value := by
  unfold CachedMap.findNearestConnectedLane Lanes.findNearestConnectedLane
  cases nearestConnectedLane D gps ref b with
  | error e => rfl
  | ok best =>
    cases best with
    | none => rfl
    | some id => exact (map_then _ _ _).trans (cachedLane_refines id gps)

theorem getLaneById_refines (grow : Nat → Nat) (id : LaneId) :
    (m.getLaneById D grow id).map unaddressed = Lanes.getLaneById D id m.value := by
  unfold CachedMap.getLaneById Lanes.getLaneById
  cases place : m.cache.find fun cached => cached.laneId = id with
  | some p =>
    obtain ⟨info, held, denotes⟩ := find_some place
    have cached : lookup LaneInfo.laneId m.value.cache id = some info := held
    rw [cached]
    simp [Except.map, unaddressed, denotes]
  | none =>
    have absent : lookup LaneInfo.laneId m.value.cache id = none := find_none place
    rw [absent]
    dsimp only
    split
    · exact (map_then _ _ _).trans (fetch_refines id (makeLaneById D id))
    · rfl

theorem setDefaultStart_refines (grow : Nat → Nat) (name : String) (gps : GPSCoordinate R) :
    (m.setDefaultStart D grow name gps).map CachedMap.value = Lanes.setDefaultStart D name gps m.value := by
  unfold CachedMap.setDefaultStart Lanes.setDefaultStart
  rw [← findNearestLane_refines grow]
  cases m.findNearestLane D grow gps with
  | error e => rfl
  | ok r =>
    obtain ⟨lane, m'⟩ := r
    simp only [bind, Except.bind, pure, Except.pure, Except.map, unaddressed]
    cases lane.bind m'.cache.deref <;> rfl

/-- A call to the map in memory is the call to the map. -/
theorem call_refines (grow : Nat → Nat) (m : CachedMap R) (call : Call R) :
    (m.call D grow call).map unaddressed = call.result D m.value := by
  cases call with
  | FindNearestLane gps => exact findNearestLane_refines grow gps
  | FindNearestConnectedLane gps ref b => exact findNearestConnectedLane_refines grow gps ref b
  | GetLaneById id => exact getLaneById_refines grow id
  | SetDefaultStart name gps =>
    rw [CachedMap.call, Call.result, ← setDefaultStart_refines grow, map_then, map_then]
    rfl

/-- A step of the map in memory is one of the map. -/
theorem step_value {call : Call R} {returned : List Ptr} (stepped : step D grow m call = .ok (m', returned)) :
    ∃ lanes, serve D m.value call = .ok (m'.value, lanes) := by
  unfold step at stepped
  unfold serve
  rw [← call_refines grow]
  cases answered : m.call D grow call with
  | ok r =>
    rw [answered] at stepped
    cases stepped
    exact ⟨_, rfl⟩
  | error fault =>
    rw [answered] at stepped
    cases fault <;> cases stepped
    exact ⟨_, rfl⟩

/-- In every run the map in memory is the map after the calls of the run. -/
theorem runs_value {past : History (CachedMap R) (Call R) Ptr} (run : Runs (machine D grow) past m) :
    ∃ past', Runs (server D) past' m.value ∧ inputs past' = inputs past := by
  refine run.invariant
    (I := fun past m => ∃ past', Runs (server D) past' m.value ∧ inputs past' = inputs past) ?_ ?_
  · rintro _ rfl
    refine ⟨[], .start ?_, rfl⟩
    change CachedMap.value (.constructed D) = .fresh
    simp [CachedMap.value, CachedMap.constructed, LaneletMap.fresh]
  · rintro past m call returned m' _ ⟨past', run', same⟩ stepped
    obtain ⟨lanes, served⟩ := step_value stepped
    exact ⟨_, run'.step served, by rw [inputs_cons, inputs_cons, same]⟩

/-! ### What a call does to the memory -/

/-- A call leaves the vector alone, or appends the entry of a lanelet of the map that
    it had no entry of; the pointer that it returns denotes an entry. -/
inductive Served (D : MapData R) (grow : Nat → Nat) (v v' : Vec (LaneInfo R)) (returned : Option Ptr) : Prop
  | kept (same : v' = v) (denotes : ∀ p ∈ returned, ∃ info, v.deref p = some info)
  | appended (info : LaneInfo R) (mapped : ∃ ll, getLanelet D info.laneId = .ok ll)
      (absent : lookup LaneInfo.laneId v.elems info.laneId = none) (longer : v' = v.emplaceBack grow info)
      (denotes : ∀ p ∈ returned, v'.deref p = some info)

omit [Zero R] [Add R] [Sub R] [Mul R] [Div R] [NatCast R] [LT R] [DecidableLT R] [CMath R] in
theorem served_fetch {v v' : Vec (LaneInfo R)} {id : LaneId} {make : Except Fault (LaneInfo R)} {p : Ptr}
    (own : ∀ info, make = .ok info → info.laneId = id ∧ ∃ ll, getLanelet D id = .ok ll)
    (served : v.fetch LaneInfo.laneId grow id make = .ok (p, v')) : Served D grow v v' (some p) := by
  rcases vecFetch_cases LaneInfo.laneId grow served with ⟨rfl, info, _, denotes⟩ | ⟨info, made, absent, longer, denotes⟩
  · refine .kept rfl ?_
    rintro _ ⟨⟩
    exact ⟨info, denotes⟩
  · obtain ⟨same, mapped⟩ := own info made
    subst same
    refine .appended info mapped absent longer ?_
    rintro _ ⟨⟩
    exact denotes

theorem served_cachedLane {id : LaneId} {gps : GPSCoordinate R} {p : Ptr}
    (found : m.cachedLane D grow id gps = .ok (p, m')) : Served D grow m.cache m'.cache (some p) := by
  rw [cachedLane_eq] at found
  obtain ⟨r, served, same⟩ := map_ok found
  cases same
  refine served_fetch (fun info made => ⟨laneAt_id made, ?_⟩) served
  obtain ⟨ll, mapped, _⟩ := bind_ok made
  exact ⟨ll, mapped⟩

theorem served_findNearestLane {gps : GPSCoordinate R} {lane : Option Ptr}
    (found : m.findNearestLane D grow gps = .ok (lane, m')) : Served D grow m.cache m'.cache lane := by
  unfold CachedMap.findNearestLane at found
  split at found
  · cases found
    exact .kept rfl nofun
  · obtain ⟨⟨p, after⟩, cached, rest⟩ := bind_ok found
    cases rest
    exact served_cachedLane cached

theorem served_findNearestConnectedLane {gps : GPSCoordinate R} {ref : LaneId} {b : Bool} {lane : Option Ptr}
    (found : m.findNearestConnectedLane D grow gps ref b = .ok (lane, m')) : Served D grow m.cache m'.cache lane := by
  unfold CachedMap.findNearestConnectedLane at found
  obtain ⟨best, _, rest⟩ := bind_ok found
  cases best with
  | none =>
    cases rest
    exact .kept rfl nofun
  | some id =>
    obtain ⟨⟨p, after⟩, cached, last⟩ := bind_ok rest
    cases last
    exact served_cachedLane cached

theorem served_getLaneById {id : LaneId} {lane : Option Ptr}
    (found : m.getLaneById D grow id = .ok (lane, m')) : Served D grow m.cache m'.cache lane := by
  unfold CachedMap.getLaneById at found
  split at found
  · rename_i p place
    cases found
    obtain ⟨info, _, denotes⟩ := find_some place
    refine .kept rfl ?_
    rintro _ ⟨⟩
    exact ⟨info, denotes⟩
  · split at found
    · obtain ⟨⟨p, after⟩, served, rest⟩ := bind_ok found
      cases rest
      refine served_fetch (fun info made => ?_) served
      obtain ⟨ll, mapped, next⟩ := bind_ok made
      obtain ⟨gps, _, built⟩ := bind_ok next
      exact ⟨(makeLaneInfo_id built).trans (getLanelet_id mapped), ll, mapped⟩
    · cases found
      exact .kept rfl nofun

theorem served_step {call : Call R} {returned : List Ptr} (stepped : step D grow m call = .ok (m', returned)) :
    ∃ p, returned = p.toList ∧ Served D grow m.cache m'.cache p := by
  unfold step at stepped
  cases answered : m.call D grow call with
  | error e =>
    rw [answered] at stepped
    cases e <;> cases stepped
    exact ⟨none, rfl, .kept rfl nofun⟩
  | ok r =>
    obtain ⟨p, after⟩ := r
    rw [answered] at stepped
    cases stepped
    refine ⟨p, rfl, ?_⟩
    cases call with
    | FindNearestLane gps => exact served_findNearestLane answered
    | FindNearestConnectedLane gps ref b => exact served_findNearestConnectedLane answered
    | GetLaneById id => exact served_getLaneById answered
    | SetDefaultStart name gps =>
      obtain ⟨_, set, made⟩ := map_ok answered
      cases made
      obtain ⟨⟨lane, after⟩, found, rest⟩ := bind_ok set
      cases rest
      have served := served_findNearestLane found
      cases served with
      | kept same _ => exact .kept same nofun
      | appended info mapped absent longer _ => exact .appended info mapped absent longer nofun

/-! ### Runs -/

/-- The cache is sound, and what was ever returned from it still is what it was. -/
structure Sound (D : MapData R) (past : History (CachedMap R) (Call R) Ptr) (m : CachedMap R) : Prop where
  distinct : (m.cache.elems.map LaneInfo.laneId).Nodup
  mapped : ∀ info ∈ m.cache.elems, ∃ ll ∈ D.laneletLayer, ll.id = info.laneId
  bounded : m.cache.elems.length ≤ D.laneletLayer.length
  reserved : m.cache.capacity = D.laneletLayer.length
  block : m.cache.block = (CachedMap.constructed D).cache.block
  kept : ∀ earlier ∈ past, earlier.post.cache.elems <+: m.cache.elems
  pointers : ∀ earlier ∈ past, ∀ p ∈ earlier.outputs, ∃ info,
    earlier.post.cache.deref p = some info ∧ m.cache.deref p = some info

omit [Zero R] [Add R] [Sub R] [Mul R] [Div R] [NatCast R] [LT R] [DecidableLT R] [CMath R] in
theorem sound_constructed : Sound D [] (.constructed D) where
  distinct := by simp [CachedMap.constructed]
  mapped := by simp [CachedMap.constructed]
  bounded := by simp [CachedMap.constructed]
  reserved := reserve_empty _
  block := rfl
  kept := List.forall_mem_nil _
  pointers := List.forall_mem_nil _

omit [Zero R] [Add R] [Sub R] [Mul R] [Div R] [NatCast R] [LT R] [DecidableLT R] [CMath R] in
/-- A cache that takes an entry more is still no larger than the layer. -/
theorem sound_entries {past : History (CachedMap R) (Call R) Ptr} {info : LaneInfo R} (sound : Sound D past m)
    (mapped : ∃ ll, getLanelet D info.laneId = .ok ll)
    (absent : lookup LaneInfo.laneId m.cache.elems info.laneId = none) :
    ((m.cache.elems ++ [info]).map LaneInfo.laneId).Nodup ∧
      (∀ entry ∈ m.cache.elems ++ [info], ∃ ll ∈ D.laneletLayer, ll.id = entry.laneId) ∧
      (m.cache.elems ++ [info]).length ≤ D.laneletLayer.length := by
  have distinct := nodup_append_of_absent LaneInfo.laneId sound.distinct absent
  have known : ∀ entry ∈ m.cache.elems ++ [info], ∃ ll ∈ D.laneletLayer, ll.id = entry.laneId := by
    intro entry member
    rcases List.mem_append.mp member with old | new
    · exact sound.mapped entry old
    · rw [List.mem_singleton.mp new]
      simpa using (getLanelet_exists D info.laneId).mp mapped
  refine ⟨distinct, known, ?_⟩
  have few := length_le_of_keys LaneInfo.laneId (D.laneletLayer.map Lanelet.id) distinct fun entry member => by
    simpa using known entry member
  simpa using few

/-- Every call keeps the cache sound. -/
theorem sound_step {past : History (CachedMap R) (Call R) Ptr} {call : Call R} {returned : List Ptr}
    (sound : Sound D past m) (stepped : step D grow m call = .ok (m', returned)) :
    Sound D (⟨m, call, returned, m'⟩ :: past) m' := by
  obtain ⟨p, rfl, served⟩ := served_step stepped
  cases served with
  | kept same denotes =>
    refine ⟨same ▸ sound.distinct, same ▸ sound.mapped, same ▸ sound.bounded, same ▸ sound.reserved,
      same ▸ sound.block, ?_, ?_⟩
    · exact List.forall_mem_cons.mpr ⟨List.prefix_rfl, same ▸ sound.kept⟩
    · refine List.forall_mem_cons.mpr ⟨fun q member => ?_, same ▸ sound.pointers⟩
      obtain ⟨info, held⟩ := denotes q (Option.mem_toList.mp member)
      rw [← same] at held
      exact ⟨info, held, held⟩
  | appended info mapped absent longer denotes =>
    obtain ⟨distinct, known, few⟩ := sound_entries sound mapped absent
    have room : m.cache.elems.length < m.cache.capacity := by
      rw [List.length_append, List.length_singleton] at few
      rw [sound.reserved]
      omega
    have elems : m'.cache.elems = m.cache.elems ++ [info] := by rw [longer, emplaceBack_elems]
    obtain ⟨block, capacity⟩ := emplaceBack_stays grow info room
    rw [← longer] at block capacity
    refine ⟨elems ▸ distinct, elems ▸ known, elems ▸ few, capacity.trans sound.reserved,
      block.trans sound.block, ?_, ?_⟩
    · refine List.forall_mem_cons.mpr ⟨List.prefix_rfl, fun earlier member => ?_⟩
      rw [elems]
      exact (sound.kept earlier member).trans (List.prefix_append _ _)
    · refine List.forall_mem_cons.mpr ⟨fun q member => ?_, fun earlier member q pointer => ?_⟩
      · have held := denotes q (Option.mem_toList.mp member)
        exact ⟨info, held, held⟩
      · obtain ⟨entry, returned, now⟩ := sound.pointers earlier member q pointer
        rw [longer]
        exact ⟨entry, returned, deref_emplaceBack room now⟩

/-- The cache stays sound, whatever calls come in whatever order, and no pointer
    that was returned is lost. -/
theorem pointers_stay {past : History (CachedMap R) (Call R) Ptr} (run : Runs (machine D grow) past m) :
    Sound D past m := by
  refine run.invariant (I := fun past m => Sound D past m) ?_ ?_
  · rintro _ rfl
    exact sound_constructed
  · intro past m call returned m' _ sound stepped
    exact sound_step sound stepped

end

section
attribute [local instance] streetMath

/-- The first lane is found twice, then the second and by identifier the crosswalk: the
    cache fills up, and the first pointer still denotes the first lane. -/
theorem pointers_stay_on_street : ∃ past m, Runs (machine street fun n => 2 * n) past m ∧
    m.cache.elems.map LaneInfo.laneId = [101, 102, 103] ∧
    past.map Moment.outputs = [[⟨1, 2⟩], [⟨1, 1⟩], [⟨1, 0⟩], [⟨1, 0⟩]] ∧ Sound street past m := by
  obtain ⟨past, m, run, filled⟩ := exists_run (M := machine street fun n => 2 * n) (s := .constructed street)
    [.FindNearestLane ⟨35 + 688 / 1000, 139 + 69020 / 100000⟩, .FindNearestLane ⟨35 + 688 / 1000, 139 + 69030 / 100000⟩,
      .FindNearestConnectedLane ⟨35 + 688 / 1000, 139 + 69190 / 100000⟩ 101 true, .GetLaneById 103] rfl
    (fun past m => decide (m.cache.elems.map LaneInfo.laneId = [101, 102, 103] ∧
      past.map Moment.outputs = [[⟨1, 2⟩], [⟨1, 1⟩], [⟨1, 0⟩], [⟨1, 0⟩]])) (by decide +kernel)
  obtain ⟨ids, pointers⟩ := of_decide_eq_true filled
  exact ⟨past, m, run, ids, pointers, pointers_stay run⟩

end
end AutowareAgent.LanePointers
