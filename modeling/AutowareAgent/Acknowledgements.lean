import AutowareAgent.Engagement

/-!
Which engagement an acknowledgement ends. The requests of an engagement are sent
again every two seconds, and an earlier one stays outstanding; the handler of the
acknowledgement looks at the state alone. So an acknowledgement may arrive in a
later engagement than its request was made in, and drives that one.
-/
namespace AutowareAgent.Acknowledgements
open AutowareAgent.Machines AutowareAgent.Lanes AutowareAgent.LaneCache AutowareAgent.Trips AutowareAgent.Strand
open AutowareAgent.Automaton AutowareAgent.Engagement

section
variable {R κ : Type}

/-- The state that an engagement leads to. -/
def driving : TripState → Bool
  | .DrivingToPickup | .Running => true
  | _ => false

/-- An engagement ends in a drive only by the acknowledgement of a request that
    was made in it. -/
def OwnAck (past : History (World R κ) (Input R κ) (Output R κ)) (m : Moment (World R κ) (Input R κ) (Output R κ)) :
    Prop :=
  m.pre.ctrl.status.state = .Engaging → driving m.post.ctrl.status.state = true →
    ∃ e seq, m.input = .Acknowledge e seq ∧ seq ∈ m.pre.acks ∧ SameEpisode seq past

/-- An acknowledgement is handled in an engagement only when nothing has disturbed
    the engagement since its mode-change request was sent. -/
def Timely (past : History (World R κ) (Input R κ) (Output R κ)) (m : Moment (World R κ) (Input R κ) (Output R κ)) :
    Prop :=
  ∀ e seq, m.input = .Acknowledge e seq → seq ∈ m.pre.acks → m.pre.ctrl.status.state = .Engaging →
    ∀ n ∈ since (sends seq) past, ¬ Disturbs n

end

/-- Of what can happen in an engagement, an acknowledgement starts the drive. -/
theorem advance_drives {ev : Event} {p p' : Phase} {sigs : List Signal} (moved : Advance ev p sigs p')
    (engaging : p.state = .Engaging) : driving p'.state = true ↔ ev = .Acknowledge := by
  by_cases ends : ev = .Cancel ∨ ev = .Acknowledge
  · rcases ends with rfl | rfl
    · cases moved with
      | plan asked => rcases asked with ⟨same, _⟩ | ⟨same, _⟩ <;> cases same
      | refuse asked => simp at asked
      | goToPickup asked | failMove asked | move asked => rcases asked with same | same <;> cases same
      | cancel => exact iff_of_false nofun nofun
    · cases moved with
      | plan asked => rcases asked with ⟨same, _⟩ | ⟨same, _⟩ <;> cases same
      | refuse asked => simp at asked
      | goToPickup asked | failMove asked | move asked => rcases asked with same | same <;> cases same
      | late elsewhere => exact absurd engaging elsewhere
      | engagePickup | engageTrip => exact iff_of_true rfl rfl
  · have stays := (advance_engaging moved engaging).mpr ends
    refine iff_of_false ?_ fun ack => ends (.inr ack)
    rw [stays]
    exact nofun

section
variable {R κ : Type} [Zero R] [Add R] [Sub R] [Mul R] [Div R] [NatCast R] [LT R] [DecidableLT R] [CMath R]
variable {D : MapData R} {T : TripTimings} {past : History (World R κ) (Input R κ) (Output R κ)} {w : World R κ}

/-- A step takes an engagement to its drive when it handles an acknowledgement
    that was posted, and only then. -/
theorem drives_iff {w' : World R κ} {i : Input R κ} {os : List (Output R κ)} (run : Runs (machine D T) past w)
    (stepped : step D T w i = .ok (w', os)) (engaging : w.ctrl.status.state = .Engaging) :
    driving w'.ctrl.status.state = true ↔ ∃ e seq, i = .Acknowledge e seq ∧ seq ∈ w.acks := by
  refine (advance_drives (step_advance run stepped) engaging).trans ?_
  cases i with
  | Handle e op => cases op <;> simp [eventOf, operationEvent]
  | ModeResponse seq success =>
    simp only [eventOf]
    split <;> simp
  | EngageResponse seq code => simp [eventOf]
  | Acknowledge e seq =>
    simp only [eventOf, Input.Acknowledge.injEq]
    constructor
    · intro event
      split at event
      · rename_i posted
        exact ⟨e, seq, ⟨rfl, rfl⟩, posted⟩
      · cases event
    · rintro ⟨_, _, ⟨rfl, rfl⟩, posted⟩
      rw [if_pos posted]

/-- In every run the drives begin by acknowledgements of their own engagements
    exactly when every acknowledgement handled in an engagement is timely. -/
theorem ownAck_iff (run : Runs (machine D T) past w) : Along OwnAck past ↔ Along Timely past := by
  refine run.along_congr fun past w i os w' earlier stepped => ?_
  have drives := drives_iff earlier stepped
  constructor
  · rintro own e seq rfl posted engaging
    have drive := (drives engaging).mpr ⟨e, seq, rfl, posted⟩
    obtain ⟨_, _, same, _, episode⟩ := own engaging drive
    cases same
    exact (sameEpisode_iff earlier (.inr (.inr posted))).mp ⟨engaging, episode⟩
  · intro timely engaging drive
    obtain ⟨e, seq, rfl, posted⟩ := (drives engaging).mp drive
    have undisturbed := timely e seq rfl posted engaging
    exact ⟨e, seq, rfl, posted, ((sameEpisode_iff earlier (.inr (.inr posted))).mpr undisturbed).2⟩

end

section
attribute [local instance] streetMath

/-- A trip whose pickup leg begins by the acknowledgement of its own request. -/
theorem ownAck_on_street : ∃ past w, Runs (machine street {} : Machine (World ℚ Unit) _ _ _) past w ∧
    w.ctrl.status.state = .DrivingToPickup ∧ (Along OwnAck past ↔ Along Timely past) := by
  obtain ⟨past, w, run, drives⟩ := exists_run (M := machine street {}) (s := initialWorld .fresh 0)
    (tripOnStreet (some ()) ++ engagedOnStreet 21 0) fresh_starts
    (fun _ w => decide (w.ctrl.status.state = .DrivingToPickup)) (by decide +kernel)
  exact ⟨past, w, run, by simpa using drives, ownAck_iff run⟩

/-- The pickup leg sends its request twice. The first answer takes the vehicle to the
    pickup; the second comes after the move and sets the trip leg running. -/
theorem runs_by_pickup_ack :
    ∃ past w, Runs (machine street {} : Machine (World ℚ Unit) _ _ _) past w ∧ ¬ Along OwnAck past := by
  obtain ⟨past, w, run, stale⟩ := exists_run (M := machine street {}) (s := initialWorld .fresh 0)
    (tripOnStreet (some ()) ++ eachSecond 23 [.Tick] ++ engagedOnStreet 24 0 ++
      eachSecond 25 [.RouteState .Arrived, .Tick, .Move] ++ engagedOnStreet 28 1) fresh_starts
    (fun past _ => match past with
      | m :: older => decide (m.pre.ctrl.status.state = .Engaging ∧ m.post.ctrl.status.state = .Running ∧
          m.input = .Acknowledge (streetAt 28) 1) &&
        (since (sends 1) older).any fun n => decide (n.post.ctrl.status.state = .DrivingToPickup)
      | [] => false)
    (by decide +kernel)
  refine ⟨past, w, run, fun all => ?_⟩
  cases past with
  | nil => cases stale
  | cons m older =>
    obtain ⟨moved, left⟩ := Bool.and_eq_true_iff.mp stale
    obtain ⟨engaging, running, handled⟩ := of_decide_eq_true moved
    obtain ⟨n, member, driving⟩ := List.any_eq_true.mp left
    obtain ⟨e, seq, same, _, episode⟩ := all.1 engaging (by rw [running]; rfl)
    rw [handled] at same
    cases same
    have engaged := episode.2 n member
    rw [of_decide_eq_true driving] at engaged
    cases engaged

end
end AutowareAgent.Acknowledgements
