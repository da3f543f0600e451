import AutowareAgent.Arrivals
import AutowareAgent.Engagement

/-!
The handshake of a drive. An engagement starts with the goal of its leg, and
Autoware answers with a route state `SET` once it has the route. The query waits
for it, the drive does not: the first tick that gets past the guards of
`doEngage` asks for the mode change, with the new route or without.
-/
namespace AutowareAgent.Handshake
open AutowareAgent.Machines AutowareAgent.Lanes AutowareAgent.LaneCache AutowareAgent.Trips AutowareAgent.Strand
open AutowareAgent.Automaton AutowareAgent.Engagement AutowareAgent.Arrivals

section
variable {R κ : Type}

/-- The goal of a leg of the drive is published. -/
def publishesGoal (m : Moment (World R κ) (Input R κ) (Output R κ)) : Bool :=
  publishes .Pickup m || publishes .Trip m

/-- A `SET` has been delivered since the latest goal of the drive. -/
def HeardSet (past : History (World R κ) (Input R κ) (Output R κ)) : Prop :=
  ∃ m ∈ since publishesGoal past, delivered m = some .Set

/-- A mode change is requested after the goal of a leg and a `SET` that was delivered since. -/
def OnNewRoute (past : History (World R κ) (Input R κ) (Output R κ))
    (m : Moment (World R κ) (Input R κ) (Output R κ)) : Prop :=
  .ModeRequest ∈ m.outputs → (∃ g ∈ past, publishesGoal g = true) ∧ HeardSet past

/-- A tick of an engagement that is due and passes the guards of `doEngage`. -/
def Passes (m : Moment (World R κ) (Input R κ) (Output R κ)) : Prop :=
  match m.input with
  | .Handle e .Tick => m.pre.ctrl.status.state = .Engaging ∧ 2000 ≤ elapsedMs e.now m.pre.ctrl.lastPublishTime ∧
      e.modeServiceReady = true ∧ e.engageServiceReady = true ∧ m.pre.ctrl.currentModeState ≠ some false
  | _ => False

/-- The first tick after a goal that passes the guards finds a `SET` delivered since the goal. -/
def FirstIsAnswered (past : History (World R κ) (Input R κ) (Output R κ))
    (m : Moment (World R κ) (Input R κ) (Output R κ)) : Prop :=
  Passes m → (∀ n ∈ since publishesGoal past, ¬ Passes n) → HeardSet past

/-- Where every first tick finds a `SET`, every tick does. -/
theorem heardSet_of_passes {past : History (World R κ) (Input R κ) (Output R κ)} (all : Along FirstIsAnswered past)
    (some : ∃ n ∈ since publishesGoal past, Passes n) : HeardSet past := by
  induction past with
  | nil =>
    obtain ⟨n, member, _⟩ := some
    cases member
  | cons m past ih =>
    cases goal : publishesGoal m with
    | true =>
      rw [since_cons_kind goal] at some
      obtain ⟨n, member, _⟩ := some
      cases member
    | false =>
      rw [since_cons_other goal] at some
      have older : HeardSet past → HeardSet (m :: past) := by
        rintro ⟨n, member, set⟩
        exact ⟨n, by rw [since_cons_other goal]; exact List.mem_cons_of_mem _ member, set⟩
      by_cases before : ∃ n ∈ since publishesGoal past, Passes n
      · exact older (ih all.2 before)
      · obtain ⟨n, member, passes⟩ := some
        rcases List.mem_cons.mp member with rfl | member
        · exact older (all.1 passes fun n member passes => before ⟨n, member, passes⟩)
        · exact absurd ⟨n, member, passes⟩ before

end

/-- An engagement is entered with the goal of its leg. -/
theorem advance_entersEngaging {ev : Event} {p p' : Phase} {sigs : List Signal} (moved : Advance ev p sigs p')
    (engaging : p'.state = .Engaging) :
    p.state = .Engaging ∨ .GoalAt .WaitingLocalisation ∈ sigs ∨ .GoalAt .WaitingForMove ∈ sigs := by
  cases moved with
  | plan _ _ after _ _ => rw [engaging] at after; cases after
  | publishGoal _ => exact .inr (.inl (by simp))
  | move _ _ => exact .inr (.inr (by simp))
  | _ => simp_all

section
variable {R κ : Type} [Zero R] [Add R] [Sub R] [Mul R] [Div R] [NatCast R] [LT R] [DecidableLT R] [CMath R]
variable {D : MapData R} {T : TripTimings} {past : History (World R κ) (Input R κ) (Output R κ)} {w : World R κ}

theorem engaging_published (run : Runs (machine D T) past w) (engaging : w.ctrl.status.state = .Engaging) :
    ∃ g ∈ past, publishesGoal g = true := by
  refine run.invariant (I := fun past w => w.ctrl.status.state = .Engaging → ∃ g ∈ past, publishesGoal g = true)
    ?_ ?_ engaging
  · rintro _ ⟨m, now, _, rfl⟩ engaging
    have start := phaseOf_initial (κ := κ) m now
    rcases start with phase | phase <;> cases (congrArg Phase.state phase).symm.trans engaging
  · intro past w i os w' earlier published stepped engaging
    have goal : .GoalAt .WaitingLocalisation ∈ signals os ∨ .GoalAt .WaitingForMove ∈ signals os →
        ∃ g ∈ (⟨w, i, os, w'⟩ :: past : History _ _ _), publishesGoal g = true := by
      intro goal
      exact ⟨_, List.mem_cons_self, Bool.or_eq_true_iff.mpr (goal.imp decide_eq_true decide_eq_true)⟩
    rcases advance_entersEngaging (step_advance earlier stepped) engaging with before | entered
    · obtain ⟨g, member, own⟩ := published before
      exact ⟨g, List.mem_cons_of_mem _ member, own⟩
    · exact goal entered

omit [Zero R] [Add R] [Sub R] [Mul R] [Div R] [NatCast R] [LT R] [DecidableLT R] [CMath R] in
/-- What a tick of an engagement sends. -/
theorem tickEngaging_out {e : Env R} {c : TripController R κ} (quiet : c.out = []) :
    .ModeRequest ∈ (c.tickEngaging e).out ↔ 2000 ≤ elapsedMs e.now c.lastPublishTime ∧
      e.modeServiceReady = true ∧ e.engageServiceReady = true ∧ c.currentModeState ≠ some false := by
  unfold TripController.tickEngaging
  split
  · rename_i due
    simp only [TripController.doEngage, due, true_and]
    cases e.modeServiceReady <;> cases e.engageServiceReady <;> simp [quiet]
    by_cases unavailable : c.currentModeState = some false <;> simp [unavailable, quiet, TripController.emit]
  · rename_i early
    simp [quiet, early]

/-- A mode change is requested by the ticks that pass the guards, and only then. -/
theorem modeRequest_iff {w' : World R κ} {i : Input R κ} {os : List (Output R κ)} (run : Runs (machine D T) past w)
    (stepped : step D T w i = .ok (w', os)) : .ModeRequest ∈ os ↔ Passes ⟨w, i, os, w'⟩ := by
  have ticked : ∀ e, i = .Handle e .Tick → w.ctrl.status.state = .Engaging → os = (w.ctrl.tickEngaging e).out := by
    rintro e rfl engaging
    obtain ⟨c, ran, rfl, _⟩ := handle_cases stepped
    change w.ctrl.tick D T e = .ok c at ran
    simp only [TripController.tick, engaging, Except.ok.injEq] at ran
    rw [ran]
  constructor
  · intro asked
    obtain ⟨event, engaging, _⟩ := advance_modeRequest (step_advance run stepped) (mem_signals asked rfl)
    obtain ⟨e, rfl⟩ := eventOf_tick event
    rw [ticked e rfl engaging, tickEngaging_out (out_nil run)] at asked
    exact ⟨engaging, asked⟩
  · intro passes
    unfold Passes at passes
    split at passes
    · rename_i e input
      obtain rfl : i = .Handle e .Tick := input
      rw [ticked e rfl passes.1, tickEngaging_out (out_nil run)]
      exact passes.2
    · cases passes

/-- In every run the mode changes are requested on the new routes exactly when
    the first tick of each engagement that passes the guards finds a `SET`. -/
theorem onNewRoute_iff (run : Runs (machine D T) past w) : Along OnNewRoute past ↔ Along FirstIsAnswered past := by
  induction run with
  | start _ => exact Iff.rfl
  | @step past w w' i os earlier stepped ih =>
    have asked := modeRequest_iff earlier stepped
    constructor
    · rintro ⟨new, older⟩
      exact ⟨fun passes _ => (new (asked.mpr passes)).2, ih.mp older⟩
    · rintro ⟨answered, older⟩
      refine ⟨fun request => ?_, ih.mpr older⟩
      have passes := asked.mp request
      obtain ⟨_, engaging, _⟩ := advance_modeRequest (step_advance earlier stepped) (mem_signals request rfl)
      refine ⟨engaging_published earlier engaging, ?_⟩
      by_cases before : ∃ n ∈ since publishesGoal past, Passes n
      · exact heardSet_of_passes older before
      · exact answered passes fun n member passes => before ⟨n, member, passes⟩

end

section
attribute [local instance] streetMath

/-- A whole trip on the street. -/
theorem onNewRoute_iff_on_street : ∃ past w, Runs (machine street {} : Machine (World ℚ Unit) _ _ _) past w ∧
    w.ctrl.status.state = .Completed ∧ (Along OnNewRoute past ↔ Along FirstIsAnswered past) := by
  obtain ⟨past, w, run, done⟩ := completed_on_street
  exact ⟨past, w, run, done, onNewRoute_iff run⟩

/-- The route of the query is still the one that Autoware has when the mode
    change is requested. -/
theorem engaged_on_old_route : ∃ past w, Runs (machine street {} : Machine (World ℚ Unit) _ _ _) past w ∧
    ¬ Along OnNewRoute past := by
  obtain ⟨past, w, run, early⟩ := exists_run (M := machine street {}) (s := initialWorld .fresh 0)
    (quoteOnStreet (some ()) ++ eachSecond 16 [.StartTrip, .GoToPickup, .Tick, .Tick, .Tick]) fresh_starts
    (fun past _ => match past with
      | m :: older => decide (.ModeRequest ∈ m.outputs) &&
          (since publishesGoal older).all (fun n => delivered n != some .Set)
      | [] => false)
    (by decide +kernel)
  refine ⟨past, w, run, fun all => ?_⟩
  cases past with
  | nil => cases early
  | cons m older =>
    simp only [Bool.and_eq_true, decide_eq_true_eq, List.all_eq_true, bne_iff_ne] at early
    obtain ⟨_, n, member, set⟩ := all.1 early.1
    exact early.2 n member set

end
end AutowareAgent.Handshake
