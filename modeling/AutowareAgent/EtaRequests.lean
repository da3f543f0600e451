import AutowareAgent.Reports

/-!
For which request a quote is reported. The request identifier is a variable that
every `TripInit` overwrites on the stream's thread, whatever becomes of its
query, and that the strand reads when a query has succeeded. It reads it through
an adapter that is gone when `startAutowareApp` has returned.
-/
namespace AutowareAgent.EtaRequests
open AutowareAgent.Machines AutowareAgent.Lanes AutowareAgent.LaneCache AutowareAgent.Trips AutowareAgent.Strand
open AutowareAgent.Gateway AutowareAgent.Reports

section
variable {R : Type}

/-- The request of the latest `TripInit` taken in, 0 before the first. -/
def latestRequest : History (App R) (Turn R) (Effect R) → Int64
  | [] => 0
  | m :: older =>
    match dispatched m with
    | some (.SetRequestId id) => id
    | _ => latestRequest older

/-- The running handler makes an event up. -/
def makes (m : Moment (App R) (Turn R) (Effect R)) : Bool :=
  match handled m with
  | some (.Make _) => true
  | _ => false

/-- The history before the latest event that a handler made up. -/
def beforeMaking : History (App R) (Turn R) (Effect R) → History (App R) (Turn R) (Effect R)
  | [] => []
  | m :: older => if makes m then older else beforeMaking older

/-- `startAutowareApp` has returned. -/
def Returned (past : History (App R) (Turn R) (Effect R)) : Prop := ∃ m ∈ past, m.input = .Returns

/-- The identifier that is read now is that of the given request. -/
def ReadsOwn (past : History (App R) (Turn R) (Effect R)) (asked : Int64) : Prop :=
  ¬ Returned past ∧ latestRequest past = asked

/-- The quote that the query of a request gave is reported for this request. -/
def ForItsRequest (m : Moment (App R) (Turn R) (Effect R)) : Prop :=
  ∀ asked time fare event, .Queued (.Eta asked time fare) event ∈ m.outputs →
    event = .Eta vin asked time fare "COMPLETED"

/-- When the event of a quote was made up, `startAutowareApp` had not returned, and
    the latest `TripInit` taken in was its request's. -/
def LatestIsItsRequest (past : History (App R) (Turn R) (Effect R)) (m : Moment (App R) (Turn R) (Effect R)) : Prop :=
  ∀ asked time fare event, .Queued (.Eta asked time fare) event ∈ m.outputs → ReadsOwn (beforeMaking past) asked

/-- So it was for every quote that was reported, and is for the one whose event a callback makes up next. -/
def InTime (past : History (App R) (Turn R) (Effect R)) (s : App R) : Prop :=
  Along LatestIsItsRequest past ∧ ∀ asked time fare rest, s.handler = .Make (.Eta asked time fare) :: rest →
    ReadsOwn past asked

/-- Only the first of the acts has an event in its hand. -/
def OneInHand (acts : List (Act R)) : Prop := ∀ report event, .Enqueue report event ∉ acts.tail

theorem returned_cons (m : Moment (App R) (Turn R) (Effect R)) (older : History (App R) (Turn R) (Effect R)) :
    Returned (m :: older) ↔ m.input = .Returns ∨ Returned older := by
  simp [Returned]

theorem latestRequest_other {m : Moment (App R) (Turn R) (Effect R)} {older : History (App R) (Turn R) (Effect R)}
    (other : ∀ id, dispatched m ≠ some (.SetRequestId id)) : latestRequest (m :: older) = latestRequest older := by
  rw [latestRequest]
  split
  · rename_i id stored
    exact absurd stored (other id)
  · rfl

theorem beforeMaking_other {m : Moment (App R) (Turn R) (Effect R)} {older : History (App R) (Turn R) (Effect R)}
    (other : makes m = false) : beforeMaking (m :: older) = beforeMaking older := by
  simp [beforeMaking, other]

end

section
variable {R : Type} [Zero R] [Add R] [Sub R] [Mul R] [Div R] [NatCast R] [LT R] [DecidableLT R] [CMath R]
variable {D : MapData R} {T : TripTimings} {past : History (App R) (Turn R) (Effect R)} {s : App R}

/-- A callback that makes up the event of a quote goes on to enqueue it, and it is its request's. -/
def GoesOn (D : MapData R) (T : TripTimings) (s : App R) : Prop :=
  ∀ asked time fare rest, s.handler = .Make (.Eta asked time fare) :: rest →
    ∃ t, Gateway.step D T s .Handler = .ok (t, []) ∧
      t.handler = .Enqueue (.Eta asked time fare) (.Eta vin asked time fare "COMPLETED") :: rest

/-- The quotes are reported for their requests, and the callback of the next one gets to report it. -/
def OwnQuotes (D : MapData R) (T : TripTimings) (past : History (App R) (Turn R) (Effect R)) (s : App R) : Prop :=
  Along (fun _ m => ForItsRequest m) past ∧ GoesOn D T s

/-- A callback gets the identifier of its request where the adapter is still there and it is the one stored. -/
theorem handler_goes_iff {asked : Int64} {time fare : R} {rest : List (Act R)}
    (front : s.handler = .Make (.Eta asked time fare) :: rest) :
    (∃ t, Gateway.step D T s .Handler = .ok (t, []) ∧
      t.handler = .Enqueue (.Eta asked time fare) (.Eta vin asked time fare "COMPLETED") :: rest) ↔
      s.etaAdapter = true ∧ s.currentRequestId = asked := by
  by_cases alive : s.etaAdapter = true
  · simp [Gateway.step, front, Act.next, Report.event, getEta, alive, Act.effects, Except.map, bind, Except.bind, pure,
      Except.pure]
  · simp [Gateway.step, front, Act.next, Report.event, getEta, alive, Except.map, bind, Except.bind]

/-- The adapter is there until `startAutowareApp` returns. -/
theorem etaAdapter_run (run : Runs (Gateway.machine D T) past s) : s.etaAdapter = true ↔ ¬ Returned past := by
  refine run.invariant (I := fun past s => s.etaAdapter = true ↔ ¬ Returned past) ?_ ?_
  · rintro _ ⟨w, _, rfl⟩
    simp [initialApp, Returned]
  · intro past s i effects s' earlier same stepped
    rw [returned_cons]
    cases step_cases stepped with
    | outside _ _ _ _ _ _ _ _ adapter kept =>
      by_cases returns : i = .Returns
      · simp [kept.1 returns, returns]
      · simpa [kept.2 returns, returns] using same
    | receive _ _ | run _ _ _ _ _ _ _ _ => simpa using same
    | dispatch act rest _ | handle act rest _ => simpa using same

/-- The variable holds the request of the latest `TripInit`. -/
theorem currentRequestId_run (run : Runs (Gateway.machine D T) past s) : s.currentRequestId = latestRequest past := by
  refine run.invariant (I := fun past s => s.currentRequestId = latestRequest past) ?_ ?_
  · rintro _ ⟨w, _, rfl⟩
    rfl
  · intro past s i effects s' earlier same stepped
    cases step_cases stepped with
    | outside _ _ _ _ outside _ _ _ _ _ =>
      rw [latestRequest_other (by simp [(threads_outside outside).1])]
      exact same
    | receive _ _ | run _ _ _ _ _ _ _ _ => exact same.trans (latestRequest_other (by simp [dispatched])).symm
    | dispatch act rest next =>
      have own : ∀ s', dispatched ⟨s, .Dispatch, act.effects, s'⟩ = some act := by simp [dispatched, next]
      cases act with
      | SetRequestId id => simp [latestRequest, own, Act.apply]
      | _ => exact same.trans (latestRequest_other (by simp [own])).symm
    | handle act rest next =>
      have callback := handler_ofCallback earlier act (by simp [next])
      rw [latestRequest_other (by simp [dispatched])]
      cases act with
      | SetRequestId id => cases callback
      | _ => exact same

/-- The event in the handler's hand carries the request that was the latest when it
    was made up, and `startAutowareApp` had not returned then. -/
theorem inHand_run (run : Runs (Gateway.machine D T) past s) : OneInHand s.handler ∧
    ∀ asked time fare event, .Enqueue (.Eta asked time fare) event ∈ s.handler →
      ¬ Returned (beforeMaking past) ∧
        event = .Eta vin (latestRequest (beforeMaking past)) time fare "COMPLETED" := by
  refine run.invariant (I := fun past s => OneInHand s.handler ∧
    ∀ asked time fare event, .Enqueue (.Eta asked time fare) event ∈ s.handler →
      ¬ Returned (beforeMaking past) ∧
        event = .Eta vin (latestRequest (beforeMaking past)) time fare "COMPLETED") ?_ ?_
  · rintro _ ⟨w, _, rfl⟩
    exact ⟨fun _ _ => List.not_mem_nil, fun _ _ _ _ => nofun⟩
  · rintro past s i effects s' earlier ⟨one, own⟩ stepped
    cases step_cases stepped with
    | outside _ _ _ _ outside _ _ _ _ _ =>
      rw [beforeMaking_other (by simp [makes, (threads_outside outside).2])]
      exact ⟨one, own⟩
    | receive _ _ => exact ⟨one, own⟩
    | dispatch act rest next =>
      rw [beforeMaking_other rfl]
      simpa using And.intro one own
    | run e job rest w os free next ran =>
      exact ⟨fun _ _ left => callbacks_enqueue (List.mem_of_mem_tail left), fun _ _ _ _ left =>
        absurd left callbacks_enqueue⟩
    | handle act rest next left leaves =>
      rw [next] at one own
      have later : ∀ report event, .Enqueue report event ∉ rest := one
      have doing : ∀ s', handled ⟨s, .Handler, act.effects, s'⟩ = some act := by simp [handled, next]
      rcases next_cases leaves with ⟨report, held, rfl, made, rfl⟩ | ⟨_, rfl⟩
      · refine ⟨later, fun asked time fare event inHand => ?_⟩
        rcases List.mem_cons.mp inHand with first | other
        · cases first
          -- the identifier was read just now, through the adapter
          obtain ⟨requestId, read, rfl⟩ := map_ok made
          obtain ⟨alive, rfl⟩ := getEta_ok read
          simp [beforeMaking, makes, doing, currentRequestId_run earlier, (etaAdapter_run earlier).mp alive]
        · exact absurd other (later _ _)
      · exact ⟨fun _ _ held => later _ _ (List.mem_of_mem_tail held), fun _ _ _ _ held => absurd held (later _ _)⟩

/-- In every run the quotes are reported for their requests exactly when, as each
    event was made up, `startAutowareApp` had not returned and no later `TripInit`
    had come with another request. -/
theorem forItsRequest_iff (run : Runs (Gateway.machine D T) past s) : OwnQuotes D T past s ↔ InTime past s := by
  refine and_congr (run.along_congr fun past s i effects s' earlier stepped => ?_) ?_
  · refine forall₄_congr fun asked time fare event => ?_
    refine imp_congr_right fun queued => ?_
    rcases queued_cases earlier stepped queued with ⟨_, command⟩ | left
    · cases command
    · obtain ⟨before, rfl⟩ := (inHand_run earlier).2 asked time fare event left
      simp [ReadsOwn, before]
  · refine forall₄_congr fun asked time fare rest => ?_
    refine forall_congr' fun front => ?_
    rw [handler_goes_iff front, etaAdapter_run run, currentRequestId_run run]
    rfl

end

section
attribute [local instance] streetMath

/-- A request on the street and the report of its quote. -/
theorem forItsRequest_iff_on_street : ∃ past s, Runs (Gateway.machine street {}) past s ∧
    .Eta vin 5 18 (132 / 25) "COMPLETED" ∈ queued past ∧
    (OwnQuotes street {} past s ↔ InTime past s) := by
  obtain ⟨past, s, run, reported⟩ := exists_run (M := Gateway.machine street {})
    (s := initialApp (initialWorld .fresh 0))
    (queryTurns 5 ++ deliveryTurns 9 (legTurns 90 12) ++ List.replicate 3 .Handler) fresh_wired
    (fun past _ => decide (.Eta vin 5 18 (132 / 25) "COMPLETED" ∈ queued past)) (by decide +kernel)
  exact ⟨past, s, run, by simpa using reported, forItsRequest_iff run⟩

/-- Another request comes while the query runs. It is rejected, and the quote is
    reported for it. And where `startAutowareApp` has returned, the callback of a
    query that nothing disturbs reads the identifier through the adapter that is gone. -/
theorem quote_misreported : (∃ past s, Runs (Gateway.machine street {}) past s ∧ ¬ OwnQuotes street {} past s) ∧
    ∃ past s, Runs (Gateway.machine street {}) past s ∧ latestRequest past = 5 ∧
      Gateway.step street {} s .Handler = .error .DestroyedAdapter ∧ ¬ OwnQuotes street {} past s := by
  constructor
  · obtain ⟨past, s, run, other⟩ := exists_run (M := Gateway.machine street {})
      (s := initialApp (initialWorld .fresh 0))
      (queryTurns 5 ++ commandTurns (initOnStreet 9) ++ [.Run (streetAt 9)] ++ deliveryTurns 10 (legTurns 90 12) ++
        List.replicate 2 .Handler) fresh_wired
      (fun past _ => past.any fun m =>
        decide (.Queued (.Eta 5 18 (132 / 25)) (.Eta vin 9 18 (132 / 25) "COMPLETED") ∈ m.outputs))
      (by decide +kernel)
    refine ⟨past, s, run, fun own => ?_⟩
    obtain ⟨m, member, reported⟩ := List.any_eq_true.mp other
    cases along_forall.mp own.1 m member _ _ _ _ (of_decide_eq_true reported)
  · obtain ⟨past, s, run, gone⟩ := exists_run (M := Gateway.machine street {})
      (s := initialApp (initialWorld .fresh 0))
      (.Returns :: queryTurns 5 ++ deliveryTurns 9 (legTurns 90 12)) fresh_wired
      (fun past s => decide (latestRequest past = 5 ∧ s.etaAdapter = false ∧
        s.handler = [.Make (.Eta 5 18 (132 / 25)), .Post .StartTrip]))
      (by decide +kernel)
    obtain ⟨latest, gone, front⟩ := of_decide_eq_true gone
    have fault : Gateway.step street {} s .Handler = .error .DestroyedAdapter := by
      simp [Gateway.step, front, Act.next, Report.event, getEta, gone, Except.map, bind, Except.bind]
    refine ⟨past, s, run, latest, fault, fun own => ?_⟩
    obtain ⟨t, went, _⟩ := own.2 _ _ _ _ front
    cases fault.symm.trans went

end
end AutowareAgent.EtaRequests
