import AutowareAgent.Bank

/-!
What a rejected command leaves behind. Four of the five commands check before
they write. `startTrip` raises the pickup flag and forgets the route state before
its guards, so its refusal leaves the controller alone exactly when there was
nothing for it to change.
-/
namespace AutowareAgent.Rejections
open AutowareAgent.Machines AutowareAgent.Lanes AutowareAgent.LaneCache AutowareAgent.Trips AutowareAgent.Strand
open AutowareAgent.TripSteps AutowareAgent.Automaton AutowareAgent.Quotes AutowareAgent.Queries AutowareAgent.Bank

section
variable {R κ : Type}

/-- The commands that say whether they were accepted. -/
def commands : Operation R κ → Bool
  | .QueryEta _ _ _ | .StartTrip | .GoToPickup | .Move | .HandleMoveCommand => true
  | _ => false

@[simp] theorem returned_unanswered (cb : Option κ) (result : EtaQueryResult R) (ok : Bool) :
    .Returned ok ∉ answered cb result := by
  cases cb <;> simp [answered]

/-- What is left of a command that was refused. -/
theorem returning_settled {c : TripController R κ} (quiet : c.out = []) : (returning (c, false)).settled = c := by
  cases c
  simp_all [returning, TripController.emit, TripController.settled]

end

section
variable {R κ : Type} [Zero R] [Add R] [Sub R] [Mul R] [Div R] [NatCast R] [LT R] [DecidableLT R] [CMath R]

/-- A command that returns false without failing the trip leaves the whole
    controller as it was. -/
def RejectedUnchanged (D : MapData R) (T : TripTimings) (w : World R κ) (e : Env R) (op : Operation R κ) : Prop :=
  commands op = true → ∀ w' os, step D T w (.Handle e op) = .ok (w', os) → .Returned false ∈ os →
    w'.ctrl.status.state ≠ .Failed → w'.ctrl = w.ctrl

/-- `startTrip` is accepted, or finds the flag raised and no route state stored. -/
def NothingWritten (c : TripController R κ) (op : Operation R κ) : Prop :=
  op = .StartTrip → c.status.state = .RoutesReady ∨ c.engagingForPickup = true ∧ c.currentRouteState = none

omit [Div R] in
/-- No step returns two values. -/
theorem progress_returns {D : MapData R} {T : TripTimings} {e : Env R} {op : Operation R κ} {p p' : Pipeline R κ}
    {told : List (Notice R κ)} {ok ok' : Bool} (moved : Progress D T (.Handle e op) p told p')
    (one : .Returned ok ∈ told) (two : .Returned ok' ∈ told) : ok = ok' := by
  cases moved with
  | quiet _ refused => rcases refused with rfl | rfl <;> simp_all
  | drive _ _ _ _ _ _ _ _ _ accepted => rcases accepted with rfl | rfl <;> simp_all
  | _ => simp_all

end

section
variable {R κ : Type} [Zero R] [Add R] [Sub R] [Mul R] [Div R] [NatCast R] [LT R] [DecidableLT R] [CMath R]
variable {D : MapData R} {T : TripTimings} {past : History (World R κ) (Input R κ) (Output R κ)} {w w' : World R κ}
variable {e : Env R} {op : Operation R κ} {os : List (Output R κ)}

/-- A command that returns false does so once. -/
theorem returned_false {r : TripController R κ × Bool} (run : Runs (machine D T) past w)
    (stepped : step D T w (.Handle e op) = .ok (w', (returning r).out)) (no : .Returned false ∈ (returning r).out) :
    r.2 = false := by
  have moved := step_progress run stepped
  refine progress_returns moved ?_ (mem_notices no rfl)
  rw [notices_returning]
  simp

/-- Where no quote is ready `startTrip` is refused after it has written both fields. -/
theorem startTrip_refused (run : Runs (machine D T) past w) (other : w.ctrl.status.state ≠ .RoutesReady) (now : Int) :
    w.ctrl.startTrip D now = .ok ({ w.ctrl with engagingForPickup := true, currentRouteState := none }, false) := by
  obtain ⟨r, started⟩ := startTrip_returns run now
  rcases startTrip_cases started with refused | ⟨_, _, _, _, banked, _, ready | idle, _, _⟩
  · rw [started, refused]
  · exact absurd ready other
  · have empty := (booked_idle (booked_run run) idle).1
    rw [banked] at empty
    cases empty

theorem refused_step (run : Runs (machine D T) past w) (other : w.ctrl.status.state ≠ .RoutesReady) (e : Env R) :
    ∃ os, step D T w (.Handle e .StartTrip) =
        .ok ({ w with ctrl := { w.ctrl with engagingForPickup := true, currentRouteState := none } }, os) ∧
      .Returned false ∈ os := by
  have quiet := out_nil run
  refine ⟨[.Returned false], ?_, by simp⟩
  simp [step, Operation.apply, startTrip_refused run other, returning, TripController.emit, quiet, requestsMode,
    TripController.settled, Except.map, bind, Except.bind, pure, Except.pure]

/-- A refusal that writes something is seen in the controller. -/
theorem refusal_writes (run : Runs (machine D T) past w) (other : w.ctrl.status.state ≠ .RoutesReady)
    (unchanged : RejectedUnchanged D T w e .StartTrip) :
    w.ctrl.engagingForPickup = true ∧ w.ctrl.currentRouteState = none := by
  obtain ⟨os, stepped, no⟩ := refused_step run other e
  have alive := (never_failed run).1
  have same := unchanged rfl _ _ stepped no alive
  exact ⟨(congrArg TripController.engagingForPickup same).symm, (congrArg TripController.currentRouteState same).symm⟩

/-- The commands other than `startTrip` check before they write. -/
theorem rejected_checked (run : Runs (machine D T) past w) (other : op ≠ .StartTrip) :
    RejectedUnchanged D T w e op := by
  intro command w' os stepped no alive
  have quiet := out_nil run
  obtain ⟨c, applied, rfl, ended⟩ := handle_cases stepped
  have own : w'.ctrl = c.settled := by
    rw [ended]
    split <;> rfl
  rw [own] at alive ⊢
  have went : ∀ now, c = returning (w.ctrl.goToPickup now) → c.settled = w.ctrl := by
    rintro now rfl
    rcases goToPickup_cases w.ctrl now with same | ⟨_, accepted⟩
    · rw [same]
      exact returning_settled quiet
    · have returned := returned_false run stepped no
      rw [accepted] at returned
      cases returned
  have moved : ∀ r now, w.ctrl.move D now = .ok r → c = returning r → c.settled = w.ctrl := by
    rintro r now ran rfl
    have returned := returned_false run stepped no
    rcases move_cases ran with ⟨_, rfl⟩ | ⟨_, _, rfl⟩ | ⟨_, _, m, lane, _, _, _, _, rfl⟩
    · exact returning_settled quiet
    · exact absurd (transitionTo_state w.ctrl now .Failed) alive
    · cases lane with
      | none => exact absurd (transitionTo_state { w.ctrl with laneletMap := m } now .Failed) alive
      | some lane => cases returned
  cases op with
  | StartTrip => exact absurd rfl other
  | QueryEta start goal cb =>
    obtain ⟨r, queried, rfl⟩ := map_ok applied
    have returned := returned_false run stepped no
    rcases queryEta_cases queried with ⟨_, reason, refused⟩ | ⟨yes, _⟩
    · have kept : r.1.settled = w.ctrl := by
        rw [refused, ← returning_settled quiet]
        cases cb <;> rfl
      exact kept
    · rw [returned] at yes
      cases yes
  | GoToPickup =>
    cases applied
    exact went e.now rfl
  | Move =>
    obtain ⟨r, ran, rfl⟩ := map_ok applied
    exact moved r e.now ran rfl
  | HandleMoveCommand =>
    obtain ⟨r, handled, rfl⟩ := map_ok applied
    rcases handleMoveCommand_cases handled with ⟨_, rfl⟩ | ⟨_, ran⟩ | rfl
    · exact went e.now rfl
    · exact moved r e.now ran rfl
    · exact returning_settled quiet
  | _ => cases command

/-- In every reachable state a rejected command changes nothing exactly when it
    is not a `startTrip` that finds something to write. -/
theorem rejected_unchanged_iff (run : Runs (machine D T) past w) (e : Env R) (op : Operation R κ) :
    RejectedUnchanged D T w e op ↔ NothingWritten w.ctrl op := by
  constructor
  · rintro unchanged rfl
    by_cases ready : w.ctrl.status.state = .RoutesReady
    · exact .inl ready
    · exact .inr (refusal_writes run ready unchanged)
  · intro nothing
    by_cases start : op = .StartTrip
    · subst start
      intro _ w' os stepped no alive
      by_cases ready : w.ctrl.status.state = .RoutesReady
      · -- a quoted trip is accepted
        obtain ⟨accepted, started⟩ := startTrip_returns run e.now
        obtain ⟨c, applied, rfl, _⟩ := handle_cases stepped
        obtain ⟨r, ran, rfl⟩ := map_ok applied
        have returned := returned_false run stepped no
        cases started.symm.trans ran
        simp [ready] at returned
      · obtain ⟨flag, route⟩ := (nothing rfl).resolve_left ready
        obtain ⟨os', refused, _⟩ := refused_step run ready e
        cases refused.symm.trans stepped
        generalize w.ctrl = c at flag route
        cases c
        simp_all
    · exact rejected_checked run start

end

section
attribute [local instance] streetMath

/-- A move that comes before the trip has started. -/
theorem rejected_unchanged_iff_on_street : ∃ past w, Runs (machine street {} : Machine (World ℚ Unit) _ _ _) past w ∧
    w.ctrl.status.state = .RoutesReady ∧
      (RejectedUnchanged street {} w (streetAt 16) .Move ↔ NothingWritten w.ctrl .Move) := by
  obtain ⟨past, w, run, ready⟩ := exists_run (M := machine street {}) (s := initialWorld .fresh 0)
    (quoteOnStreet (some ())) fresh_starts (fun _ w => decide (w.ctrl.status.state = .RoutesReady)) (by decide +kernel)
  exact ⟨past, w, run, by simpa using ready, rejected_unchanged_iff run (streetAt 16) .Move⟩

/-- A `startTrip` that is refused on the way to the destination loses the arrival
    that has just been delivered. -/
theorem arrival_lost : ∃ past w, Runs (machine street {} : Machine (World ℚ Unit) _ _ _) past w ∧
    w.ctrl.status.state = .Running ∧ ¬ RejectedUnchanged street {} w (streetAt 40) .StartTrip := by
  obtain ⟨past, w, run, arrived⟩ := exists_run (M := machine street {}) (s := initialWorld .fresh 0)
    (tripOnStreet (some ()) ++ pickupOnStreet ++ engagedOnStreet 28 1 ++ eachSecond 29 [.RouteState .Arrived])
    fresh_starts
    (fun _ w => decide (w.ctrl.status.state = .Running ∧ w.ctrl.currentRouteState = some .Arrived))
    (by decide +kernel)
  obtain ⟨running, stored⟩ := of_decide_eq_true arrived
  refine ⟨past, w, run, running, fun unchanged => ?_⟩
  have lost := (refusal_writes run (by simp [running]) unchanged).2
  rw [stored] at lost
  cases lost

end
end AutowareAgent.Rejections
