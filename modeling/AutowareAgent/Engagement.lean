import AutowareAgent.Automaton

/-!
When an engage request leaves the agent. A mode-change request is sent in one
engaging episode; the engage request that continues it stays within the episode
exactly when neither a cancel nor an engage acknowledgement was handled in
between, because the handler of the mode-change response looks at no state.
-/
namespace AutowareAgent.Engagement
open AutowareAgent.Machines AutowareAgent.Lanes AutowareAgent.LaneCache AutowareAgent.Trips AutowareAgent.Strand
open AutowareAgent.Automaton

section
variable {R κ : Type}

/-- The moment sent the mode-change request with the number. -/
def sends (seq : Nat) (m : Moment (World R κ) (Input R κ) (Output R κ)) : Bool :=
  m.pre.nextSeq = seq && requestsMode m.outputs

/-- The request was sent while engaging, and the controller has been engaging
    after every moment since. -/
def SameEpisode (seq : Nat) (past : History (World R κ) (Input R κ) (Output R κ)) : Prop :=
  (∃ m ∈ past, sends seq m = true ∧ m.post.ctrl.status.state = .Engaging) ∧
    ∀ m ∈ since (sends seq) past, m.post.ctrl.status.state = .Engaging

/-- An engage request is sent while engaging, and in the episode of the
    mode-change request that it continues. -/
def Continues (past : History (World R κ) (Input R κ) (Output R κ))
    (m : Moment (World R κ) (Input R κ) (Output R κ)) : Prop :=
  .EngageRequest true ∈ m.outputs → m.pre.ctrl.status.state = .Engaging ∧
    ∃ seq success, m.input = .ModeResponse seq success ∧ SameEpisode seq past

/-- A cancel is handled, or an engage acknowledgement that was posted. -/
def Disturbs (m : Moment (World R κ) (Input R κ) (Output R κ)) : Prop :=
  eventOf m.pre m.input = .Cancel ∨ eventOf m.pre m.input = .Acknowledge

/-- An outstanding request is answered with success only when nothing has
    disturbed the engagement since it was sent. -/
def Undisturbed (past : History (World R κ) (Input R κ) (Output R κ))
    (m : Moment (World R κ) (Input R κ) (Output R κ)) : Prop :=
  ∀ seq, m.input = .ModeResponse seq true → seq ∈ m.pre.modeCalls →
    ∀ n ∈ since (sends seq) past, ¬ Disturbs n

theorem requestsMode_iff (os : List (Output R κ)) : requestsMode os = true ↔ .ModeRequest ∈ signals os := by
  simp only [requestsMode, signals, List.any_eq_true, List.mem_filterMap]
  refine exists_congr fun o => and_congr_right fun _ => ?_
  cases o <;> simp [signalOf]

theorem engageRequest_mem (os : List (Output R κ)) : .EngageRequest true ∈ os ↔ .EngageRequest ∈ signals os := by
  simp only [signals, List.mem_filterMap]
  constructor
  · exact fun member => ⟨_, member, rfl⟩
  · rintro ⟨o, member, made⟩
    cases o with
    | EngageRequest engage => cases engage <;> simp_all [signalOf]
    | _ => simp [signalOf] at made

end

/-! ### The automaton in an engagement -/

/-- A mode change is requested only by a tick while engaging, which changes nothing. -/
theorem advance_modeRequest {ev : Event} {p p' : Phase} {sigs : List Signal} (moved : Advance ev p sigs p')
    (asked : .ModeRequest ∈ sigs) : ev = .Tick ∧ p.state = .Engaging ∧ p' = p := by
  cases moved with
  | requestMode engaging => exact ⟨rfl, engaging, rfl⟩
  | plan _ _ _ _ planned => cases planned _ asked
  | _ => simp at asked

/-- An engage request is sent when the mode has changed, and only then. -/
theorem advance_engageRequest {ev : Event} {p p' : Phase} {sigs : List Signal} (moved : Advance ev p sigs p') :
    .EngageRequest ∈ sigs ↔ ev = .ModeChanged := by
  cases moved with
  | plan asked _ _ _ planned =>
    refine iff_of_false (fun member => ?_) ?_
    · cases planned _ member
    · rcases asked with ⟨rfl, _⟩ | ⟨rfl, _⟩ <;> simp
  | refuse asked =>
    refine iff_of_false (by simp) ?_
    rintro rfl
    simp at asked
  | goToPickup asked _ | failMove asked _ | move asked _ => rcases asked with rfl | rfl <;> simp
  | _ => simp

/-- A cancel and an acknowledgement end an engagement, and nothing else does. -/
theorem advance_engaging {ev : Event} {p p' : Phase} {sigs : List Signal} (moved : Advance ev p sigs p')
    (engaging : p.state = .Engaging) : p'.state = .Engaging ↔ ¬(ev = .Cancel ∨ ev = .Acknowledge) := by
  cases moved with
  | plan _ before _ _ _ => rw [engaging] at before; cases before
  | failTrip ready _ | acceptTrip ready _ => simp [engaging] at ready
  | goToPickup _ waiting | failMove _ waiting | move _ waiting => simp [engaging] at waiting
  | publishPose publishing => simp [engaging] at publishing
  | publishGoal localised => simp [engaging] at localised
  | arrivePickup driving _ | arriveDropoff driving _ => simp [engaging] at driving
  | late elsewhere => exact absurd engaging elsewhere
  | refuse asked =>
    refine iff_of_true engaging ?_
    rintro (rfl | rfl) <;> simp at asked
  | _ => simp [engaging]

/-! ### Requests and episodes -/

section
variable {R κ : Type} [Zero R] [Add R] [Sub R] [Mul R] [Div R] [NatCast R] [LT R] [DecidableLT R] [CMath R]
variable {D : MapData R} {T : TripTimings} {past : History (World R κ) (Input R κ) (Output R κ)} {w : World R κ}

/-- A step that sends a mode-change request finds and leaves an engagement. -/
theorem sends_engaging {m : Moment (World R κ) (Input R κ) (Output R κ)} {seq : Nat}
    (run : Runs (machine D T) (m :: past) w) (sent : sends seq m = true) :
    m.post.ctrl.status.state = .Engaging := by
  obtain ⟨earlier, stepped, _⟩ := run.inv
  have asked : requestsMode m.outputs = true := by
    unfold sends at sent
    exact (Bool.and_eq_true_iff.mp sent).2
  obtain ⟨_, engaging, same⟩ := advance_modeRequest (step_advance earlier stepped) ((requestsMode_iff _).mp asked)
  have state := congrArg Phase.state same
  exact state.trans engaging

/-- The request is under way: its mode change or its engagement is not answered,
    or the handler of its acknowledgement has not run. -/
def UnderWay (seq : Nat) (w : World R κ) : Prop := seq ∈ w.modeCalls ∨ seq ∈ w.engageCalls ∨ seq ∈ w.acks

/-- Every request under way was sent in the run. -/
theorem underWay_sent (run : Runs (machine D T) past w) :
    ∀ seq, UnderWay seq w → ∃ m ∈ past, sends seq m = true := by
  refine run.invariant (I := fun past w => ∀ seq, UnderWay seq w → ∃ m ∈ past, sends seq m = true) ?_ ?_
  · rintro _ ⟨m, now, _, rfl⟩ seq (waiting | waiting | waiting) <;> cases waiting
  · intro past w i os w' _ sent stepped seq waiting
    change step D T w i = _ at stepped
    have older : UnderWay seq w → ∃ m ∈ (⟨w, i, os, w'⟩ :: past : History _ _ _), sends seq m = true := by
      intro waiting
      obtain ⟨m, member, own⟩ := sent seq waiting
      exact ⟨m, List.mem_cons_of_mem _ member, own⟩
    cases i with
    | Handle e op =>
      obtain ⟨c, _, rfl, rfl⟩ := handle_cases stepped
      split at waiting
      · rename_i asked
        rcases waiting with waiting | waiting
        · rcases List.mem_append.mp waiting with waiting | fresh
          · exact older (.inl waiting)
          · refine ⟨_, List.mem_cons_self, ?_⟩
            simp [sends, asked, List.mem_singleton.mp fresh]
        · exact older (.inr waiting)
      · exact older waiting
    | ModeResponse seq' success =>
      rcases modeResponse_cases stepped with ⟨_, rfl, _⟩ | ⟨_, _, rfl, _⟩ | ⟨answered, _, _, rfl⟩
      · exact older waiting
      · exact older (waiting.imp_left List.mem_of_mem_erase)
      · rcases waiting with waiting | waiting | waiting
        · exact older (.inl (List.mem_of_mem_erase waiting))
        · rcases List.mem_append.mp waiting with waiting | same
          · exact older (.inr (.inl waiting))
          · exact older (.inl (List.mem_singleton.mp same ▸ answered))
        · exact older (.inr (.inr waiting))
    | EngageResponse seq' code =>
      obtain ⟨_, _, same, _, fewer⟩ := engageResponse_cases stepped
      refine older (waiting.imp (fun waiting => ?_) (fewer seq))
      rw [← same]
      exact waiting
    | Acknowledge e seq' =>
      rcases acknowledge_cases stepped with ⟨_, rfl, _⟩ | ⟨_, _, rfl⟩
      · exact older waiting
      · exact older (waiting.imp_right (.imp_right List.mem_of_mem_erase))

/-- From an engagement on, the controller stays engaging as long as nothing
    disturbs it, and no longer. -/
theorem engaging_iff {m : Moment (World R κ) (Input R κ) (Output R κ)}
    {newer older : History (World R κ) (Input R κ) (Output R κ)} (run : Runs (machine D T) (newer ++ m :: older) w)
    (engaging : m.post.ctrl.status.state = .Engaging) :
    ((∀ n ∈ newer, n.post.ctrl.status.state = .Engaging) ↔ ∀ n ∈ newer, ¬ Disturbs n) ∧
      ((∀ n ∈ newer, n.post.ctrl.status.state = .Engaging) → w.ctrl.status.state = .Engaging) := by
  induction newer generalizing w with
  | nil => exact ⟨by simp, fun _ => run.inv.2.2 ▸ engaging⟩
  | cons n newer ih =>
    obtain ⟨earlier, stepped, rfl⟩ := run.inv
    obtain ⟨alike, now⟩ := ih earlier
    refine ⟨?_, fun all => all n List.mem_cons_self⟩
    rw [List.forall_mem_cons, List.forall_mem_cons, and_comm, and_comm (a := ¬ Disturbs n), ← alike]
    exact and_congr_right fun all => advance_engaging (step_advance earlier stepped) (now all)

/-- A step sends an engage request when it hands on a successful answer, and only then. -/
theorem engageRequest_iff {w' : World R κ} {i : Input R κ} {os : List (Output R κ)}
    (run : Runs (machine D T) past w) (stepped : step D T w i = .ok (w', os)) :
    .EngageRequest true ∈ os ↔ ∃ seq ∈ w.modeCalls, i = .ModeResponse seq true := by
  rw [engageRequest_mem, advance_engageRequest (step_advance run stepped)]
  cases i with
  | Handle e op => cases op <;> simp [eventOf, operationEvent]
  | ModeResponse seq success => cases success <;> simp [eventOf]
  | EngageResponse seq code => simp [eventOf]
  | Acknowledge e seq =>
    simp only [eventOf]
    split <;> simp

/-- A request under way stays within its episode exactly when nothing has
    disturbed the engagement since it was sent. -/
theorem sameEpisode_iff (run : Runs (machine D T) past w) {seq : Nat} (waiting : UnderWay seq w) :
    (w.ctrl.status.state = .Engaging ∧ SameEpisode seq past) ↔ ∀ n ∈ since (sends seq) past, ¬ Disturbs n := by
  obtain ⟨m, older, split, sent⟩ := since_split (underWay_sent run seq waiting)
  have whole := run
  rw [split] at whole
  obtain ⟨t, at_sending⟩ := whole.suffix
  have engaging := sends_engaging at_sending sent
  obtain ⟨alike, now⟩ := engaging_iff whole engaging
  rw [← alike]
  constructor
  · exact fun episode => episode.2.2
  · refine fun all => ⟨now all, ⟨m, ?_, sent, engaging⟩, all⟩
    rw [split]
    simp

/-- In every run the engage requests stay within their episodes exactly when no
    successful mode change is answered after a disturbance. -/
theorem continues_iff (run : Runs (machine D T) past w) : Along Continues past ↔ Along Undisturbed past := by
  refine run.along_congr fun past w i os w' earlier stepped => ?_
  have sent := engageRequest_iff earlier stepped
  constructor
  · rintro continues seq rfl waiting
    obtain ⟨engaging, seq', success, same, episode⟩ := continues (sent.mpr ⟨seq, waiting, rfl⟩)
    cases same
    exact (sameEpisode_iff earlier (.inl waiting)).mp ⟨engaging, episode⟩
  · intro undisturbed member
    obtain ⟨seq, waiting, rfl⟩ := sent.mp member
    obtain ⟨engaging, episode⟩ := (sameEpisode_iff earlier (.inl waiting)).mpr (undisturbed seq rfl waiting)
    exact ⟨engaging, seq, true, rfl, episode⟩

end

section
attribute [local instance] streetMath

/-- A trip in which the engage request follows its mode change at once. -/
theorem continues_iff_on_street : ∃ past w, Runs (machine street {} : Machine (World ℚ Unit) _ _ _) past w ∧
    w.engageCalls = [0] ∧ (Along Continues past ↔ Along Undisturbed past) := by
  obtain ⟨past, w, run, sent⟩ := exists_run (M := machine street {}) (s := initialWorld .fresh 0)
    (tripOnStreet (some ()) ++ [.ModeResponse 0 true]) fresh_starts
    (fun _ w => decide (w.engageCalls = [0])) (by decide +kernel)
  exact ⟨past, w, run, by simpa using sent, continues_iff run⟩

/-- The trip is cancelled while the mode change is under way: its answer engages
    the vehicle of an idle controller. -/
theorem engaged_after_cancel :
    ∃ past w, Runs (machine street {} : Machine (World ℚ Unit) _ _ _) past w ∧ ¬ Along Continues past := by
  obtain ⟨past, w, run, late⟩ := exists_run (M := machine street {}) (s := initialWorld .fresh 0)
    (tripOnStreet (some ()) ++ eachSecond 21 [.Cancel] ++ [.ModeResponse 0 true]) fresh_starts
    (fun past _ => match past with
      | m :: _ => decide (.EngageRequest true ∈ m.outputs ∧ m.pre.ctrl.status.state = .Idle)
      | [] => false)
    (by decide +kernel)
  refine ⟨past, w, run, fun all => ?_⟩
  cases past with
  | nil => cases late
  | cons m older =>
    obtain ⟨sent, idle⟩ := of_decide_eq_true late
    rw [(all.1 sent).1] at idle
    cases idle

end
end AutowareAgent.Engagement
