import AutowareAgent.Minimum
import AutowareAgent.Perceptions
import Mathlib.Data.List.Forall2

/-!
The two bridges over the same messages. Each has loops of its own over the
objects and over the traffic lights of a message. They show the same objects in
the same order, and a traffic light that one shows is flagged by the other.
-/
namespace AutowareAgent.Bridges
open AutowareAgent.Lanes AutowareAgent.Minimum AutowareAgent.Clusters AutowareAgent.Perceptions

/-! ### Loops that collect -/

section
variable {α β : Type}

/-- A loop that appends something of each element that it keeps, with its place among them. -/
theorem foldl_collect (kept : α → Bool) (f : Nat → α → β) (l : List α) :
    l.foldl (fun acc a => if kept a then acc ++ [f acc.length a] else acc) [] = (l.filter kept).mapIdx f := by
  induction l using List.reverseRecOn with
  | nil => rfl
  | append_singleton l a ih =>
    rw [List.foldl_append, ih, List.filter_append, List.foldl_cons, List.foldl_nil, List.length_mapIdx]
    cases own : kept a with
    | true => simp [own, List.mapIdx_append]
    | false => simp [own]

theorem related_mem {P : α → β → Prop} {l : List α} {l' : List β} {b : β} (related : List.Forall₂ P l l')
    (member : b ∈ l') : ∃ a ∈ l, P a b := by
  induction related with
  | nil => cases member
  | cons first _ ih =>
    rcases List.mem_cons.mp member with rfl | later
    · exact ⟨_, by simp, first⟩
    · obtain ⟨a, inside, own⟩ := ih later
      exact ⟨a, List.mem_cons_of_mem _ inside, own⟩

/-- Of the elements of one kind all are of another kind exactly when as many are of both. -/
theorem countP_both (p q : α → Bool) (l : List α) :
    l.countP (fun a => p a && q a) ≤ l.countP p ∧
      (l.countP (fun a => p a && q a) = l.countP p ↔ ∀ a ∈ l, p a = true → q a = true) := by
  induction l with
  | nil => simp
  | cons a rest ih =>
    obtain ⟨fewer, same⟩ := ih
    simp only [List.countP_cons, List.forall_mem_cons, ← same]
    cases p a <;> cases q a <;> simp <;> omega

end

/-! ### Objects -/

section
variable {R F : Type}

/-- The first label of a classification that is not empty. -/
def firstLabel (object : PredictedObject R F) : Label := object.classification.headD .Other

theorem ofKind_firstLabel {object : PredictedObject R F} (some : classified object = true) (kind : Label → Bool) :
    ofKind kind object = kind (firstLabel object) := by
  unfold classified ofKind firstLabel at *
  cases labels : object.classification with
  | nil => simp [labels] at some
  | cons label rest => rfl

variable [NatCast F] [Div F] [LT F] [DecidableLT F]

/-- Both loops keep the objects with a classification that are not improbable. -/
def kept (object : PredictedObject R F) : Bool := classified object && !improbable object

theorem kept_nil {object : PredictedObject R F} (none : object.classification = []) : kept object = false := by
  simp [kept, classified, ofKind, none]

theorem kept_cons {object : PredictedObject R F} {label : Label} {rest : List Label}
    (labels : object.classification = label :: rest) :
    kept object = !improbable object ∧ firstLabel object = label := by
  simp [kept, classified, ofKind, firstLabel, labels]

variable [Floats R F]

theorem surround_eq (objects : List (PredictedObject R F)) :
    objects.foldl pushSurround [] =
      (objects.filter kept).mapIdx fun _ object => surroundObject (firstLabel object) object := by
  rw [← foldl_collect]
  congr
  funext acc object
  unfold pushSurround
  cases labels : object.classification with
  | nil => simp [kept_nil labels]
  | cons label rest =>
    rw [(kept_cons labels).1, (kept_cons labels).2]
    cases improbable object <;> rfl

variable [Add R] [Sub R] [Mul R] [NatCast R] [CMath R]

theorem surrounding_eq (objects : List (PredictedObject R F)) :
    objects.foldl pushSurrounding [] =
      (objects.filter kept).mapIdx fun i object => surroundingObject (.ofNat i) (firstLabel object) object := by
  rw [← foldl_collect]
  congr
  funext acc object
  unfold pushSurrounding
  cases labels : object.classification with
  | nil => simp [kept_nil labels]
  | cons label rest =>
    rw [(kept_cons labels).1, (kept_cons labels).2]
    cases improbable object <;> rfl

/-- The classes that count as vehicles. -/
def vehicleClasses : List ObjectClass := [.Car, .Truck, .Bus, .Trailer, .Motorcycle]

/-- Two entries at a place of the two lists show the same object. -/
structure SameObject (i : Nat) (object : PredictedObject R F) (shown : SurroundObject F)
    (perceived : SurroundingObject R F) : Prop where
  position : shown.x = Floats.toFloat object.position.x ∧ shown.y = Floats.toFloat object.position.y
  samePosition : perceived.objectPose.x = Floats.toDouble shown.x ∧ perceived.objectPose.y = Floats.toDouble shown.y
  velocity : shown.vx = Floats.toFloat object.linear.x ∧ shown.vy = Floats.toFloat object.linear.y
  sameVelocity : perceived.objectVelocity.vxObject = shown.vx ∧ perceived.objectVelocity.vyObject = shown.vy
  id : perceived.id.toNat = i
  vehicle : shown.type = "VEHICLE" ↔ perceived.objectClass ∈ vehicleClasses
  pedestrian : shown.type = "PEDESTRIAN" ↔ perceived.objectClass = .Pedestrian

/-- As many entries have the type as the counter says, up to the improbable objects of the kind. -/
structure Counted (objects : List (PredictedObject R F)) (shown : List (SurroundObject F)) (type : String)
    (kind : PredictedObject R F → Bool) (counter : UInt32) : Prop where
  fewer : shown.countP (fun entry => entry.type = type) ≤ counter.toNat
  same : shown.countP (fun entry => entry.type = type) = counter.toNat ↔
    ∀ object ∈ objects, kind object = true → improbable object = false

omit [NatCast F] [Div F] [LT F] [DecidableLT F] in
theorem sameObject {i : Nat} (object : PredictedObject R F) (small : i < 2 ^ 32) :
    SameObject i object (surroundObject (firstLabel object) object)
      (surroundingObject (.ofNat i) (firstLabel object) object) := by
  refine ⟨⟨rfl, rfl⟩, ⟨rfl, rfl⟩, ⟨rfl, rfl⟩, ⟨rfl, rfl⟩, UInt32.toNat_ofNat_of_lt' small, ?_, ?_⟩
  · simp only [surroundObject, surroundingObject, vehicleClasses]
    cases firstLabel object <;> simp [isVehicle, toObjectClass]
  · simp only [surroundObject, surroundingObject]
    cases firstLabel object <;> simp [isVehicle, toObjectClass]

omit [Add R] [Sub R] [Mul R] [NatCast R] [CMath R] in
/-- The entries of a type are the objects of its kind that are not improbable. -/
theorem counted_kind (msg : PredictedObjects R F) {type : String} {labels : Label → Bool}
    (typed : ∀ (label : Label) (object : PredictedObject R F),
      (surroundObject label object).type = type ↔ labels label = true) :
    Counted msg.objects (msg.objects.foldl pushSurround []) type (ofKind labels)
      (.ofNat (msg.objects.countP (ofKind labels))) := by
  have entries : (msg.objects.foldl pushSurround []).countP (fun entry => entry.type = type) =
      msg.objects.countP (fun object => ofKind labels object && !improbable object) := by
    rw [surround_eq]
    have place : ((msg.objects.filter kept).mapIdx fun _ object => surroundObject (firstLabel object) object) =
        (msg.objects.filter kept).map fun object => surroundObject (firstLabel object) object :=
      List.ext_getElem (by simp) (by simp)
    rw [place, List.countP_map, List.countP_filter]
    refine List.countP_congr fun object _ => ?_
    simp only [Function.comp_apply, Bool.and_eq_true, decide_eq_true_eq, typed, kept]
    constructor
    · rintro ⟨own, some, probable⟩
      exact ⟨(ofKind_firstLabel some labels).trans own, probable⟩
    · rintro ⟨own, probable⟩
      have some := ofKind_classified own
      exact ⟨(ofKind_firstLabel some labels).symm.trans own, some, probable⟩
  obtain ⟨fewer, same⟩ := countP_both (ofKind labels) (fun object => !improbable object) msg.objects
  constructor
  · rw [entries, countP_toNat]
    exact fewer
  · rw [entries, countP_toNat, same]
    simp

/-- Whatever the bridges have stored, the message leaves the same objects in both,
    in its order, and the counters of one are right about the lists of both. -/
theorem bridges_show_same (msg : PredictedObjects R F) (s : FrameState R F) (p : PerceptionFrameState R F) :
    let shown := (onObjects msg s).surroundObjects
    let perceived := (onSurroundingObjectImpl msg p).surroundingObjects
    shown.length = (msg.objects.filter kept).length ∧ perceived.length = (msg.objects.filter kept).length ∧
    (∀ i object, (msg.objects.filter kept)[i]? = some object → ∃ entry entry', shown[i]? = some entry ∧
      perceived[i]? = some entry' ∧ SameObject i object entry entry') ∧
    Counted msg.objects shown "VEHICLE" vehicle (onObjects msg s).vehicleCount ∧
    Counted msg.objects shown "PEDESTRIAN" pedestrian (onObjects msg s).pedestrianCount := by
  have counts := stored_onObjects msg s
  have vehicles : (onObjects msg s).vehicleCount = _ := congrArg Counts.vehicle counts
  have pedestrians : (onObjects msg s).pedestrianCount = _ := congrArg Counts.pedestrian counts
  have few : (msg.objects.filter kept).length ≤ msg.objects.length := List.length_filter_le _ _
  refine ⟨?_, ?_, fun i object here => ?_, ?_, ?_⟩
  · simp [onObjects, onObjectsImpl, onSurroundObjectsImpl, surround_eq]
  · simp [onSurroundingObjectImpl, surrounding_eq]
  · have small : i < 2 ^ 32 := by
      have inside := (List.getElem?_eq_some_iff.mp here).1
      have sent := msg.sent
      omega
    refine ⟨_, _, ?_, ?_, sameObject object small⟩
    · simp [onObjects, onObjectsImpl, onSurroundObjectsImpl, surround_eq, here]
    · simp [onSurroundingObjectImpl, surrounding_eq, here]
  · rw [vehicles]
    refine counted_kind msg fun label object => ?_
    cases label <;> simp [surroundObject, isVehicle]
  · rw [pedestrians]
    refine counted_kind msg fun label object => ?_
    cases label <;> simp [surroundObject, isVehicle]

end

/-! ### Traffic lights -/

section
variable {F : Type}

/-- Some element of the message has the colour. -/
def HasColor (msg : TrafficLightGroupArray F) (color : LightColor) : Prop :=
  ∃ group ∈ msg.trafficLightGroups, ∃ ele ∈ group.elements, ele.color = color

theorem noteElements_eq (elements : List (TrafficLightElement F)) (n : Signals) :
    elements.foldl noteElement n =
      ⟨n.red || elements.any (fun ele => ele.color = .Red), n.green || elements.any (fun ele => ele.color = .Green),
        n.yellow || elements.any (fun ele => ele.color = .Amber)⟩ := by
  induction elements generalizing n with
  | nil => simp
  | cons ele rest ih =>
    rw [List.foldl_cons, ih]
    cases color : ele.color <;> simp [noteElement, color]

/-- The flags tell which colours the message has. -/
theorem flags_iff {R : Type} (msg : TrafficLightGroupArray F) (s : FrameState R F) :
    ((onTrafficSignalsImpl msg s).trafficLightRed = true ↔ HasColor msg .Red) ∧
    ((onTrafficSignalsImpl msg s).trafficLightYellow = true ↔ HasColor msg .Amber) ∧
    ((onTrafficSignalsImpl msg s).trafficLightGreen = true ↔ HasColor msg .Green) := by
  have flags : ∀ (groups : List (TrafficLightGroup F)) (n : Signals),
      groups.foldl (fun n group => group.elements.foldl noteElement n) n =
        let has color := groups.any fun group => group.elements.any fun ele => ele.color = color
        ⟨n.red || has .Red, n.green || has .Green, n.yellow || has .Amber⟩ := by
    intro groups
    induction groups with
    | nil => simp
    | cons group rest ih =>
      intro n
      rw [List.foldl_cons, ih, noteElements_eq]
      simp [Bool.or_assoc]
  simp only [onTrafficSignalsImpl, flags, HasColor, Bool.false_or, List.any_eq_true, decide_eq_true_eq, and_self]

variable [LinearOrder F]

/-- The light of a group has the greatest confidence of its elements, and the colour
    of the first element with this confidence. -/
structure LightOf (group : TrafficLightGroup F) (light : TrafficLight F) : Prop where
  id : light.trafficId = group.trafficLightGroupId
  greatest : ∀ ele ∈ group.elements, ele.confidence ≤ light.confidence
  first : ∃ before ele after, group.elements = before ++ ele :: after ∧ ele.confidence = light.confidence ∧
    (∀ other ∈ before, other.confidence ≠ light.confidence) ∧
    light.trafficLightColor = toTrafficLightColor ele.color

theorem maxElement_first (first : TrafficLightElement F) (rest : List (TrafficLightElement F)) :
    FirstLeast (fun ele => OrderDual.toDual ele.confidence) (first :: rest) (maxElement first rest) :=
  first_of_argmin (foldl_argmin_cons (fun _ _ => rfl) first rest).symm

/-- A group with elements adds its light, one without none. -/
theorem pushLight_cases (lights : List (TrafficLight F)) (group : TrafficLightGroup F) :
    (group.elements = [] ∧ pushLight lights group = lights) ∨
    (group.elements ≠ [] ∧ ∃ light, LightOf group light ∧ pushLight lights group = lights ++ [light]) := by
  unfold pushLight
  cases all : group.elements with
  | nil => exact .inl ⟨rfl, rfl⟩
  | cons first rest =>
    refine .inr ⟨by simp, _, ⟨rfl, fun ele member => ?_, ?_⟩, rfl⟩
    · rw [all] at member
      exact OrderDual.toDual_le_toDual.mp ((maxElement_first first rest).le member)
    · obtain ⟨before, after, split, surer, _⟩ := maxElement_first first rest
      refine ⟨before, maxElement first rest, after, all.trans split, rfl, fun other earlier same => ?_, rfl⟩
      exact absurd (OrderDual.toDual_lt_toDual.mp (surer other earlier)) (not_lt_of_ge same.ge)

/-- One light for each group with elements, in order. -/
theorem lights_eq (groups : List (TrafficLightGroup F)) :
    List.Forall₂ LightOf (groups.filter fun group => !group.elements.isEmpty) (groups.foldl pushLight []) := by
  induction groups using List.reverseRecOn with
  | nil => exact .nil
  | append_singleton groups group ih =>
    rw [List.filter_append, List.foldl_append, List.foldl_cons, List.foldl_nil]
    rcases pushLight_cases (groups.foldl pushLight []) group with ⟨none, same⟩ | ⟨some, light, own, longer⟩
    · rw [same]
      simpa [none] using ih
    · rw [longer]
      simpa [some] using List.rel_append ih (.cons own .nil)

/-- A light that is shown with a colour stands for an element of this colour. -/
theorem light_color {msg : TrafficLightGroupArray F} {light : TrafficLight F} {color : LightColor}
    (member : light ∈ msg.trafficLightGroups.foldl pushLight [])
    (own : light.trafficLightColor = toTrafficLightColor color) (named : color ≠ .Other) : HasColor msg color := by
  obtain ⟨group, inside, lit⟩ := related_mem (lights_eq msg.trafficLightGroups) member
  obtain ⟨before, ele, after, split, _, _, shown⟩ := lit.first
  refine ⟨group, List.mem_of_mem_filter inside, ele, by simp [split], ?_⟩
  have same : toTrafficLightColor ele.color = toTrafficLightColor color := shown.symm.trans own
  cases color <;> cases is : ele.color <;> simp_all [toTrafficLightColor]

/-- Whatever the bridges have stored, one shows a light for each group with
    elements, the other flags the colours of the message, and what is shown in a
    colour is flagged. -/
theorem bridges_agree_on_lights {R : Type} (msg : TrafficLightGroupArray F) (s : FrameState R F)
    (p : PerceptionFrameState R F) :
    let flags := onTrafficSignalsImpl msg s
    let lights := (onTrafficSignalImpl msg p).trafficLights
    List.Forall₂ LightOf (msg.trafficLightGroups.filter fun group => !group.elements.isEmpty) lights ∧
    (∀ light ∈ lights, (light.trafficLightColor = .Red → flags.trafficLightRed = true) ∧
      (light.trafficLightColor = .Amber → flags.trafficLightYellow = true) ∧
      (light.trafficLightColor = .Green → flags.trafficLightGreen = true)) ∧
    (flags.trafficLightRed = true → HasColor msg .Red) ∧
    (flags.trafficLightYellow = true → HasColor msg .Amber) ∧
    (flags.trafficLightGreen = true → HasColor msg .Green) := by
  obtain ⟨red, yellow, green⟩ := flags_iff msg s
  refine ⟨lights_eq msg.trafficLightGroups, fun light member => ⟨fun own => ?_, fun own => ?_, fun own => ?_⟩, red.mp,
    yellow.mp, green.mp⟩
  · exact red.mpr (light_color member own (by simp))
  · exact yellow.mpr (light_color member own (by simp))
  · exact green.mpr (light_color member own (by simp))

end
end AutowareAgent.Bridges
