import NodeCoverage.Proofs.Reply

/-!
# What an observer can bring about

Two services with the same primary client, whose observers may be any two rules, go through the
same operations. What a tracker knows after an operation, what it tells its observer and what it
answers if the observer does not panic are functions of what it knew before (`Operation.next`,
`Operation.told?`, `Operation.result`), so the observers can make no difference but by a panic, and
that one for the answer to the one operation alone.

Results:
* `Operation.tracker_run`, `Operation.answer_run`: an operation on a service, whatever its observer;
* `Alike.agree`: one operation keeps two services alike;
* `Operation.exists_of_panicked`: a panic happens only in a report that is applied to its end and
  marks a new node;
* `Operation.of_refused`: a refusal leaves the answer alone and is logged with one warning;
* **`observers_cannot_interfere`**: two runs of any length, step by step.
-/

namespace NodeCoverage

/-! ## Announcements of one batch -/

namespace Coverage

variable {c : Coverage} {indices : List Int}

theorem reach_eq_self {n : Nat} (h : ∀ index ∈ indices, InGraph n index) :
    reach n indices = indices := by
  unfold reach
  rw [List.takeWhile_eq_self_iff]
  exact fun index hm => decide_eq_true (h index hm)

theorem Announces.mem_hits (h : c.Announces indices) {i : Nat} :
    i ∈ hits c.total indices ↔ (i : Int) ∈ indices := by
  rw [NodeCoverage.mem_hits, reach_eq_self h.1]

/-- A batch that is announced has a node that has not been seen. -/
theorem Announces.exists_isSeen?_eq_false (h : c.Announces indices) :
    ∃ index ∈ indices, c.isSeen? index.toNat = some false := by
  obtain ⟨i, hi, hnew⟩ := Finset.not_subset.mp h.2
  have hm : (i : Int) ∈ indices := h.mem_hits.mp hi
  refine ⟨i, hm, ?_⟩
  have hlt : i < c.total := by
    have := (h.1 i hm).2
    omega
  rw [Int.toNat_natCast, c.isSeen?_eq, if_pos hlt, decide_eq_false hnew]

/-- A batch that is announced is applied to its end. -/
theorem Announces.isSeen?_after (h : c.Announces indices) (i : Nat) :
    (c.after indices).isSeen? i = some true ↔ c.isSeen? i = some true ∨ (i : Int) ∈ indices := by
  rw [← mem_seenNodes, ← mem_seenNodes, seenNodes_after, Finset.mem_union, h.mem_hits]

end Coverage

/-- The event that logs a refusal. -/
def Observer.refusal (o : Observer) (reason : String) : Event :=
  ⟨.warn, s!"Progress notification failed: {reason}", [("observer", .text o.name)]⟩

/-- What becomes of an answer when the observer has replied: only a panic takes its place. -/
def Reply.pass {α : Type} (answer : α) : Reply → Answer α
  | .accepted _ | .refused _ => .value answer
  | .panicked message => .panicked message

@[simp]
theorem Reply.map_pass {α β : Type} (f : α → β) (answer : α) (reply : Reply) :
    (reply.pass answer).map f = reply.pass (f answer) := by
  cases reply <;> rfl

namespace Tracker

variable {t : Tracker} {c : Coverage}

/-- A batch that is not announced does not reach the observer, and logs nothing. -/
theorem reportHits_of_not_announces (h : t.state = .tracking c) {indices : List Int}
    (ha : ¬ c.Announces indices) :
    (t.reportHits indices).answer = .value (c.applyHits false indices).2 ∧
      (t.reportHits indices).events = [] := by
  rw [← Coverage.answer_eq_ok_true_iff] at ha
  unfold reportHits
  simp only [h]
  rcases happly : c.applyHits false indices with ⟨d, e | _ | _⟩
  · exact ⟨rfl, rfl⟩
  · exact ⟨rfl, rfl⟩
  · exact absurd (by rw [happly]) ha

/-- A batch that is announced ends as the notification does. -/
theorem reportHits_of_announces (h : t.state = .tracking c) {indices : List Int}
    (ha : c.Announces indices) :
    (t.reportHits indices).answer =
        (t.observer.reply t.notified (c.after indices).progress).pass (.ok true) ∧
      ∀ reason, t.observer.reply t.notified (c.after indices).progress = .refused reason →
        (t.reportHits indices).events = [t.observer.refusal reason] := by
  rw [← Coverage.answer_eq_ok_true_iff] at ha
  unfold reportHits Coverage.after
  simp only [h]
  rcases happly : c.applyHits false indices with ⟨d, e | _ | _⟩
  · rw [happly] at ha
    cases ha
  · rw [happly] at ha
    cases ha
  · simp only [notify]
    cases t.observer.reply t.notified d.progress with
    | accepted logged =>
      refine ⟨rfl, ?_⟩
      rintro reason ⟨⟩
    | refused why =>
      refine ⟨rfl, ?_⟩
      rintro reason ⟨⟩
      rfl
    | panicked message =>
      refine ⟨rfl, ?_⟩
      rintro reason ⟨⟩

end Tracker

/-! ## Operations -/

/-- A request of the service, or a look at what its tracker knows. -/
inductive Operation (β : Type) where
  | call (c : ServiceCall)
  | read (f : UInt64 → TrackerState → β)

variable {β : Type}

namespace Operation

/-- What an operation answers with: the result of a call, or what was looked at. -/
abbrev Result (β : Type) := Except ServiceError Acknowledgement ⊕ β

/-- The operation on a service. -/
def run (s : Service) : Operation β → Outcome Service (Result β)
  | .call c =>
    let o := c.run s
    ⟨o.state, o.answer.map .inl, o.events⟩
  | .read f =>
    let o := s.read fun t => f t.primaryId t.state
    ⟨o.state, o.answer.map .inr, o.events⟩

/-- What is known after the operation. -/
def next (p : UInt64) (state : TrackerState) : Operation β → TrackerState
  | .call (.create a) =>
    if isPrimary p a.fuzzerId.val then .tracking (.start (a.structureGraph.getD {})) else state
  | .call (.update a) =>
    match state with
    | .uninitialized => .uninitialized
    | .tracking c => .tracking (c.after a.indices)
  | .read _ => state

/-- What the observer is told in the operation, if it is told. -/
def told? : Operation β → TrackerState → Option Progress
  | .call (.update a), .tracking c =>
    if c.Announces a.indices then some (c.after a.indices).progress else none
  | _, _ => none

/-- What the operation answers unless the observer panics. -/
def result (p : UInt64) (state : TrackerState) : Operation β → Result β
  | .call (.create _) => .inl (.ok {})
  | .call (.update a) => .inl (reply state a)
  | .read f => .inr (f p state)

variable {s s' : Service} {op : Operation β}

/-- **What an operation leaves behind** does not depend on the observer. -/
theorem tracker_run (s : Service) (op : Operation β) :
    (op.run s).state.tracker =
      { s.tracker with
        state := op.next s.tracker.primaryId s.tracker.state
        notified := (op.told? s.tracker.state).toList ++ s.tracker.notified } := by
  rcases op with (a | a) | f
  · show (s.createFuzzer a).state.tracker = _
    rw [Service.tracker_createFuzzer]
    simp only [Tracker.step, Tracker.register, next, told?, Option.toList_none, List.nil_append]
    split
    · rfl
    · rfl
  · show (s.updateFeatures a).state.tracker = _
    rw [Service.tracker_updateFeatures]
    cases h : s.tracker.state with
    | uninitialized =>
      rw [Tracker.step_report_uninitialized h]
      simp only [next, told?, Option.toList_none, List.nil_append, ← h]
    | tracking c =>
      rw [Tracker.step_report_tracking h]
      simp only [next, told?]
      split
      · rfl
      · rfl
  · rfl

end Operation

namespace Service

/-- The answer to a report is that of its batch. -/
theorem answer_updateFeatures_eq (s : Service) (a : UpdateFeaturesRequest) :
    (s.updateFeatures a).answer = (s.tracker.reportHits a.indices).answer.map fun
      | .ok _ => .ok {}
      | .error e => .error (.batch e) := by
  unfold updateFeatures
  simp only [locked]
  rcases (s.tracker.reportHits a.indices).answer with (e | updated) | message
  · rfl
  · rfl
  · rfl

/-- A report that is acknowledged logs that last. -/
theorem exists_events_updateFeatures {s : Service} {a : UpdateFeaturesRequest} {updated : Bool}
    (h : (s.tracker.reportHits a.indices).answer = .value (.ok updated)) :
    ∃ fields, (s.updateFeatures a).events =
      s.lockEvents ++ (s.tracker.reportHits a.indices).events ++
        [⟨.debug, "UpdateFeatures", fields⟩] := by
  unfold updateFeatures
  simp only [locked, h]
  exact ⟨_, rfl⟩

end Service

namespace Operation

variable {s s' : Service} {op : Operation β}

/-- **What an operation answers** depends on the observer only where it is told and panics. -/
theorem answer_run (s : Service) (op : Operation β) :
    (op.run s).answer =
      match op.told? s.tracker.state with
      | none => .value (op.result s.tracker.primaryId s.tracker.state)
      | some p =>
        (s.tracker.observer.reply s.tracker.notified p).pass
          (op.result s.tracker.primaryId s.tracker.state) := by
  rcases op with (a | a) | f
  · rfl
  · show (s.updateFeatures a).answer.map Sum.inl = _
    rw [Service.answer_updateFeatures_eq]
    cases h : s.tracker.state with
    | uninitialized =>
      rw [Tracker.reportHits_uninitialized h]
      rfl
    | tracking c =>
      simp only [told?, result, reply]
      by_cases ha : c.Announces a.indices
      · rw [if_pos ha, (Tracker.reportHits_of_announces h ha).1, Reply.map_pass, Reply.map_pass,
          replyTo_eq_ok_iff.mpr ha.1]
      · rw [if_neg ha, (Tracker.reportHits_of_not_announces h ha).1, Coverage.answer_applyHits,
          replyTo]
        cases firstOutside? c.total a.indices <;> rfl
  · rfl

/-! ## Panics and refusals -/

theorem told?_eq_some {state : TrackerState} {p : Progress} (h : op.told? state = some p) :
    ∃ a c, op = .call (.update a) ∧ state = .tracking c ∧ c.Announces a.indices ∧
      p = (c.after a.indices).progress := by
  unfold told? at h
  split at h
  · next a c =>
    split at h
    · next ha =>
      cases h
      exact ⟨a, c, rfl, rfl, ha, rfl⟩
    · cases h
  · cases h

/-- The observer has been told of `p` in the operation. -/
theorem told?_of_notified {p : Progress}
    (h : (op.run s).state.tracker.notified = p :: s.tracker.notified) :
    op.told? s.tracker.state = some p := by
  rw [tracker_run] at h
  cases htold : op.told? s.tracker.state with
  | none =>
    rw [htold] at h
    exact absurd (congrArg List.length h) (by simp)
  | some q =>
    rw [htold] at h
    rw [(List.cons.inj h).1]

/-- **A panic comes late**: in a report whose indices all name nodes, one of them a new one, and
only after all of them are marked. -/
theorem exists_of_panicked {message : String} (h : (op.run s).answer = .panicked message) :
    ∃ a c d, op = .call (.update a) ∧ s.tracker.state = .tracking c ∧
      (∀ index ∈ a.indices, InGraph c.total index) ∧
      (∃ index ∈ a.indices, c.isSeen? index.toNat = some false) ∧
      (op.run s).state.tracker.state = .tracking d ∧
      ∀ i : Nat, d.isSeen? i = some true ↔ c.isSeen? i = some true ∨ (i : Int) ∈ a.indices := by
  rw [answer_run] at h
  cases htold : op.told? s.tracker.state with
  | none =>
    rw [htold] at h
    cases h
  | some p =>
    obtain ⟨a, c, rfl, hc, ha, -⟩ := told?_eq_some htold
    refine ⟨a, c, c.after a.indices, rfl, hc, ha.1, ha.exists_isSeen?_eq_false, ?_,
      ha.isSeen?_after⟩
    rw [tracker_run, hc]
    rfl

/-- **A refusal changes no answer** and is logged with one warning. -/
theorem of_refused {p : Progress} {reason : String}
    (htold : op.told? s.tracker.state = some p)
    (hreply : s.tracker.observer.reply s.tracker.notified p = .refused reason) :
    (op.run s).answer = .value (.inl (.ok {})) ∧
      ((op.run s).events.filter fun e => e.level = .warn) =
        [s.tracker.observer.refusal reason] := by
  obtain ⟨a, c, rfl, hc, ha, rfl⟩ := told?_eq_some htold
  have hresult : result s.tracker.primaryId s.tracker.state (.call (.update a) : Operation β) =
      .inl (.ok {}) := by
    rw [hc, result, reply, replyTo_eq_ok_iff.mpr ha.1]
  constructor
  · rw [answer_run, htold, hresult]
    simp only [hreply, Reply.pass]
  · obtain ⟨hanswer, hevents⟩ := Tracker.reportHits_of_announces hc ha
    rw [hreply, Reply.pass] at hanswer
    obtain ⟨fields, hall⟩ := Service.exists_events_updateFeatures hanswer
    show (s.updateFeatures a).events.filter _ = _
    rw [hall, hevents reason hreply]
    unfold Service.lockEvents
    cases s.poisoned <;> rfl

end Operation

/-! ## Two runs -/

/-- The trackers of two services know the same and have told the same, in the same order. -/
structure Alike (s s' : Service) : Prop where
  primaryId_eq : s.tracker.primaryId = s'.tracker.primaryId
  state_eq : s.tracker.state = s'.tracker.state
  notified_eq : s.tracker.notified = s'.tracker.notified

/-- One operation of a run, and the service that it finds. -/
structure Step (β : Type) where
  found : Service
  operation : Operation β

/-- What the operation comes to. -/
def Step.outcome (x : Step β) : Outcome Service (Operation.Result β) :=
  x.operation.run x.found

/-- The steps of a run. -/
def Service.steps (s : Service) : List (Operation β) → List (Step β)
  | [] => []
  | op :: rest => ⟨s, op⟩ :: (op.run s).state.steps rest

/-- Two steps do the same operation and leave services that are alike. Unless one of them ends in
a panic they have the same answer. -/
structure Agree (x y : Step β) : Prop where
  operation_eq : x.operation = y.operation
  alike : Alike x.outcome.state y.outcome.state
  answer_eq : x.outcome.answer.isPanic = false → y.outcome.answer.isPanic = false →
    x.outcome.answer = y.outcome.answer

theorem Reply.pass_of_isPanic_eq_false {α : Type} {answer : α} {reply : Reply}
    (h : (reply.pass answer).isPanic = false) : reply.pass answer = .value answer := by
  cases reply with
  | accepted logged => rfl
  | refused reason => rfl
  | panicked message => cases h

variable {s s' : Service}

/-- Without a panic the answer is a function of what is known before. -/
theorem Operation.answer_run_of_isPanic_eq_false {op : Operation β}
    (h : (op.run s).answer.isPanic = false) :
    (op.run s).answer = .value (op.result s.tracker.primaryId s.tracker.state) := by
  rw [answer_run] at h ⊢
  cases htold : op.told? s.tracker.state with
  | none => rfl
  | some p =>
    rw [htold] at h
    exact Reply.pass_of_isPanic_eq_false h

/-- **One operation** keeps two services alike. -/
theorem Alike.agree (h : Alike s s') (op : Operation β) : Agree ⟨s, op⟩ ⟨s', op⟩ where
  operation_eq := rfl
  alike := by
    obtain ⟨hid, hstate, hnotified⟩ := h
    constructor
    all_goals
      simp only [Step.outcome, Operation.tracker_run, hid, hstate, hnotified]
  answer_eq hx hy := by
    rw [Step.outcome, Operation.answer_run_of_isPanic_eq_false hx, h.primaryId_eq, h.state_eq,
      ← Operation.answer_run_of_isPanic_eq_false hy]
    rfl

/-- **A whole run** keeps two services alike, step by step. -/
theorem Alike.forall₂_agree (h : Alike s s') (ops : List (Operation β)) :
    List.Forall₂ Agree (s.steps ops) (s'.steps ops) := by
  induction ops generalizing s s' with
  | nil => exact .nil
  | cons op rest ih => exact .cons (h.agree op) (ih (h.agree op).alike)

/-- **Observers cannot interfere.** Take two services whose trackers know the same, with any two
observers, and any run of operations on both. After each operation the trackers know the same, the
observers have been told the same in the same order, and the answers are the same unless one of
the observers panicked in it. In every step of such a run, a panic happens only in a report whose
indices all name nodes, one of which is new, and all of them are marked then; and an observer that
is told and refuses does not change the answer and is logged with one warning. -/
theorem observers_cannot_interfere (h : Alike s s') (ops : List (Operation β)) :
    List.Forall₂ Agree (s.steps ops) (s'.steps ops) ∧
      ∀ x ∈ s.steps ops ++ s'.steps ops,
        (∀ message, x.outcome.answer = .panicked message →
          ∃ a c d, x.operation = .call (.update a) ∧ x.found.tracker.state = .tracking c ∧
            (∀ index ∈ a.indices, InGraph c.total index) ∧
            (∃ index ∈ a.indices, c.isSeen? index.toNat = some false) ∧
            x.outcome.state.tracker.state = .tracking d ∧
            ∀ i : Nat, d.isSeen? i = some true ↔
              c.isSeen? i = some true ∨ (i : Int) ∈ a.indices) ∧
        ∀ p reason, x.outcome.state.tracker.notified = p :: x.found.tracker.notified →
          x.found.tracker.observer.reply x.found.tracker.notified p = .refused reason →
          x.outcome.answer = .value (.inl (.ok {})) ∧
            (x.outcome.events.filter fun e => e.level = .warn) =
              [x.found.tracker.observer.refusal reason] :=
  ⟨h.forall₂_agree ops, fun _ _ =>
    ⟨fun _ hpanic => Operation.exists_of_panicked hpanic,
      fun _ _ htold hreply => Operation.of_refused (Operation.told?_of_notified htold) hreply⟩⟩

/-- Before an observer that panics and one that refuses: the report of two nodes is answered in
different ways, what is read after it is not. -/
theorem observers_cannot_interfere_two_sinks :
    let s := Service.ofTracker (Tracker.start 0 .panicking)
    let s' := Service.ofTracker (Tracker.start 0 .failing)
    let ops : List (Operation (Option Nat)) := [
      .call (.create { structureGraph := some (.withNodes 3) }),
      .call (.update (.ofIndices [{ val := 2 }, { val := 0 }])),
      .read fun _ state => state.coverage?.map (·.covered)]
    List.Forall₂ Agree (s.steps ops) (s'.steps ops) ∧
      (s.steps ops).map (·.outcome.answer) =
        [.value (.inl (.ok {})), .panicked "sink blew up", .value (.inr (some 2))] ∧
      (s'.steps ops).map (·.outcome.answer) =
        [.value (.inl (.ok {})), .value (.inl (.ok {})), .value (.inr (some 2))] := by
  intro s s' ops
  have halike : Alike s s' := ⟨rfl, rfl, rfl⟩
  obtain ⟨hagree, -⟩ := observers_cannot_interfere halike ops
  exact ⟨hagree, rfl, rfl⟩

end NodeCoverage
