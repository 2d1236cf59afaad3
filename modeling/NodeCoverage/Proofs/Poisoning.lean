import NodeCoverage.Proofs.Observers
import NodeCoverage.Proofs.Transparency

/-!
# The lock and its flag

An observer panics while the lock is held, and that leaves the flag of the lock set. Whoever takes
the lock next finds the flag, logs so and clears it. The flag thus says how the last action ended
that took the lock, and every panic is logged by one action alone, the next one that takes the
lock. What does not get as far as the tracker does not look at the flag.

Results:
* `Action.run_of_operation?`, `Action.run_of_none`: an action comes to one operation under the lock,
  or leaves the service alone;
* `Operation.poisoned_run`, `Operation.recoveries_run`: what an operation leaves of the flag, and
  what it logs about it;
* `Operation.run_unpoison`: an operation comes to the same whether the flag is set or not;
* `Service.poisoned_after`: the flag after any actions, by induction on the last of them;
* **`lock_recovered_once`**: one action after any others, before any observer.
-/

namespace NodeCoverage

/-! ## Recoveries in a log -/

/-- The event says that a lock has been recovered. -/
def Event.IsRecovery (e : Event) : Prop :=
  e.level = .error ∧ e.message = "Progress observer panicked, recovering coverage tracker lock"

instance (e : Event) : Decidable e.IsRecovery :=
  inferInstanceAs (Decidable (_ ∧ _))

/-- How many recoveries a log has. -/
def recoveries (events : List Event) : Nat :=
  events.countP (·.IsRecovery)

theorem recoveries_append (events events' : List Event) :
    recoveries (events ++ events') = recoveries events + recoveries events' :=
  List.countP_append

/-- Only errors are recoveries. -/
theorem recoveries_eq_zero {events : List Event} (h : ∀ e ∈ events, e.level ≠ .error) :
    recoveries events = 0 := by
  unfold recoveries
  rw [List.countP_eq_zero]
  intro e he hrecovery
  exact h e he (of_decide_eq_true hrecovery).1

theorem Service.recoveries_lockEvents (s : Service) :
    recoveries s.lockEvents = if s.poisoned then 1 else 0 := by
  unfold lockEvents
  cases s.poisoned
  · rfl
  · decide

/-! ## What the tracker logs -/

/-- What an observer logs by itself when it replies. -/
def Reply.logged : Reply → List Event
  | .accepted logged => logged
  | .refused _ => []
  | .panicked _ => []

namespace Tracker

variable {t : Tracker} {c : Coverage}

theorem recoveries_notify (t : Tracker) (p : Progress) :
    recoveries (t.notify p).events = recoveries (t.observer.reply t.notified p).logged := by
  unfold notify
  cases t.observer.reply t.notified p with
  | accepted logged => rfl
  | refused reason => exact recoveries_eq_zero (by simp)
  | panicked message => rfl

theorem recoveries_register (t : Tracker) (clientId : Int) (graph : StructureGraph) :
    recoveries (t.register clientId graph).events = 0 := by
  refine recoveries_eq_zero fun e he => ?_
  unfold register registrationEvents at he
  revert he
  split
  · split
    · rintro (_ | ⟨_, _ | ⟨_, ⟨⟩⟩⟩)
      · exact nofun
      · exact nofun
    · rintro (_ | ⟨_, ⟨⟩⟩)
      exact nofun
  · rintro (_ | ⟨_, ⟨⟩⟩)
    exact nofun

/-- A batch that is announced logs what the observer logs. -/
theorem recoveries_reportHits (h : t.state = .tracking c) {indices : List Int}
    (ha : c.Announces indices) :
    recoveries (t.reportHits indices).events =
      recoveries (t.observer.reply t.notified (c.after indices).progress).logged := by
  rw [← Coverage.answer_eq_ok_true_iff] at ha
  unfold reportHits Coverage.after
  simp only [h]
  rcases happly : c.applyHits false indices with ⟨d, e | _ | _⟩
  · rw [happly] at ha
    cases ha
  · rw [happly] at ha
    cases ha
  · exact recoveries_notify { t with state := .tracking d } d.progress

end Tracker

/-! ## One operation -/

/-- What is known is sound: a bit for each node, and the count is that of the set bits. -/
def TrackerState.WellFormed : TrackerState → Prop
  | .uninitialized => True
  | .tracking c => c.WellFormed

namespace Service

/-- The service with the flag of its lock cleared. -/
def unpoison (s : Service) : Service :=
  { s with poisoned := false }

theorem recoveries_updateFeatures (s : Service) (a : UpdateFeaturesRequest) :
    recoveries (s.updateFeatures a).events =
      recoveries (s.lockEvents ++ (s.tracker.reportHits a.indices).events) := by
  unfold updateFeatures
  simp only [locked]
  split
  · rfl
  · simp only [recoveries_append]
    rfl
  · simp only [recoveries_append]
    rfl

theorem poisoned_updateFeatures (s : Service) (a : UpdateFeaturesRequest) :
    (s.updateFeatures a).state.poisoned = (s.updateFeatures a).answer.isPanic := by
  unfold updateFeatures
  simp only [locked]
  split
  · next h => simp only [h, Answer.isPanic]
  · next h => simp only [h, Answer.isPanic]
  · next h => simp only [h, Answer.isPanic]

end Service

namespace Operation

variable {β : Type}

/-- What the observer logs by itself in the operation. -/
def logged (s : Service) (op : Operation β) : List Event :=
  match op.told? s.tracker.state with
  | none => []
  | some p => (s.tracker.observer.reply s.tracker.notified p).logged

/-- **The flag after an operation** says whether it ended in a panic. -/
theorem poisoned_run (s : Service) (op : Operation β) :
    (op.run s).state.poisoned = (op.run s).answer.isPanic := by
  rcases op with (a | a) | f
  · rfl
  · show (s.updateFeatures a).state.poisoned = ((s.updateFeatures a).answer.map Sum.inl).isPanic
    rw [s.poisoned_updateFeatures]
    cases (s.updateFeatures a).answer <;> rfl
  · rfl

/-- **An operation recovers the lock once** if the flag is set, and not at all if it is not. -/
theorem recoveries_run (s : Service) (op : Operation β) :
    recoveries (op.run s).events =
      (if s.poisoned then 1 else 0) + recoveries (op.logged s) := by
  rw [← s.recoveries_lockEvents]
  rcases op with (a | a) | f
  · show recoveries (_ :: (s.lockEvents ++ (s.tracker.register _ _).events)) = _
    rw [← List.singleton_append, recoveries_append, recoveries_append,
      Tracker.recoveries_register]
    exact Nat.zero_add _
  · show recoveries (s.updateFeatures a).events = _
    rw [s.recoveries_updateFeatures, recoveries_append]
    congr 1
    cases h : s.tracker.state with
    | uninitialized =>
      rw [Tracker.reportHits_uninitialized h, logged, h]
      rfl
    | tracking c =>
      rw [logged, h]
      simp only [told?]
      by_cases ha : c.Announces a.indices
      · rw [if_pos ha, Tracker.recoveries_reportHits h ha]
      · rw [if_neg ha, (Tracker.reportHits_of_not_announces h ha).2]
  · show recoveries (s.lockEvents ++ []) = _
    rw [recoveries_append]
    rfl

/-- **A poisoned lock fails nothing**: without the flag an operation answers the same and leaves the
same behind. -/
theorem run_unpoison (s : Service) (op : Operation β) :
    (op.run s.unpoison).answer = (op.run s).answer ∧
      (op.run s.unpoison).state = (op.run s).state := by
  rcases op with (a | a) | f
  · exact ⟨rfl, rfl⟩
  · unfold run ServiceCall.run Service.updateFeatures
    simp only [Service.locked, Service.unpoison]
    split
    · exact ⟨rfl, rfl⟩
    · exact ⟨rfl, rfl⟩
    · exact ⟨rfl, rfl⟩
  · exact ⟨rfl, rfl⟩

/-- An operation fails with a panic only if the observer panics when it is told. -/
theorem exists_reply_of_panicked {s : Service} {op : Operation β} {message : String}
    (h : (op.run s).answer = .panicked message) :
    ∃ p, op.told? s.tracker.state = some p ∧
      s.tracker.observer.reply s.tracker.notified p = .panicked message := by
  rw [answer_run] at h
  cases htold : op.told? s.tracker.state with
  | none =>
    rw [htold] at h
    cases h
  | some p =>
    rw [htold] at h
    refine ⟨p, rfl, ?_⟩
    simp only at h
    cases hreply : s.tracker.observer.reply s.tracker.notified p with
    | accepted logged =>
      rw [hreply] at h
      cases h
    | refused reason =>
      rw [hreply] at h
      cases h
    | panicked why =>
      rw [hreply] at h
      cases h
      rfl

/-- **An operation keeps what is known sound**, and a panic is no exception. -/
theorem wellFormed_run {s : Service} (h : s.tracker.state.WellFormed) (op : Operation β) :
    (op.run s).state.tracker.state.WellFormed := by
  rw [tracker_run]
  rcases op with (a | a) | f
  · simp only [next]
    split
    · exact Coverage.wellFormed_start _
    · exact h
  · simp only [next]
    cases hstate : s.tracker.state with
    | uninitialized => trivial
    | tracking c =>
      rw [hstate] at h
      exact Coverage.WellFormed.after h a.indices
  · exact h

end Operation

/-! ## Actions -/

namespace Http

variable {s : Service} {r : Request}

/-- What the router takes as a registration it handles as the direct call. -/
theorem Reading.handle_eq_createFuzzer {a : CreateFuzzerRequest} (h : Reading r (.create a))
    (s : Service) : handle s r = respond (s.createFuzzer a) := by
  cases h with
  | create hc hm hx =>
    rw [handle_createPath hc hm, hx.decode_eq]
    rfl

/-- What the router takes as a report it handles as the direct call. -/
theorem Reading.handle_eq_updateFeatures {a : UpdateFeaturesRequest} (h : Reading r (.update a))
    (s : Service) : handle s r = respond (s.updateFeatures a) := by
  cases h with
  | update hu hm hx =>
    rw [handle_updatePath hu hm, hx.decode_eq]
    rfl

/-- A rejection is logged as a warning. -/
theorem Reading.recoveries_rejected {why : Rejection} (h : Reading r (.rejected why))
    (s : Service) : recoveries (handle s r).events = 0 := by
  cases h with
  | createRejected hc hm hx =>
    rw [handle_createPath hc hm, hx.decode_eq]
    exact recoveries_eq_zero (by simp [call])
  | updateRejected hu hm hx =>
    rw [handle_updatePath hu hm, hx.decode_eq]
    exact recoveries_eq_zero (by simp [call])

end Http

/-- Something that is done with a service: an operation on it, or a request to its router. -/
inductive Action (β : Type) where
  | operation (op : Operation β)
  | request (r : Http.Request)

variable {β : Type}

namespace Action

/-- What an action answers with. -/
abbrev Result (β : Type) := Operation.Result β ⊕ Http.Response

/-- The action on a service. -/
def run (s : Service) : Action β → Outcome Service (Result β)
  | .operation op =>
    let o := op.run s
    ⟨o.state, o.answer.map .inl, o.events⟩
  | .request r =>
    let o := Http.handle s r
    ⟨o.state, o.answer.map .inr, o.events⟩

/-- The operation under the lock that the action comes to. A request comes to one if the router
takes it and its body. -/
def operation? : Action β → Option (Operation β)
  | .operation op => some op
  | .request r =>
    match r.verdict with
    | .create a => some (.call (.create a))
    | .update a => some (.call (.update a))
    | .notFound | .notAllowed | .rejected _ => none

/-- Whether the action takes the lock. -/
def takesLock (a : Action β) : Bool :=
  a.operation?.isSome

/-- What the observer logs by itself in the action. -/
def logged (s : Service) (a : Action β) : List Event :=
  a.operation?.elim [] (·.logged s)

variable {s : Service} {a : Action β} {op : Operation β}

/-- What a result of the service is over the wire. -/
def overWire : Operation.Result β → Result β :=
  Sum.elim (fun result => .inr (.ofResult result)) fun b => .inl (.inr b)

theorem map_respond (o : Outcome Service (Except ServiceError Acknowledgement)) :
    (Http.respond o).answer.map Sum.inr =
      (o.answer.map (Sum.inl : _ → Operation.Result β)).map overWire := by
  unfold Http.respond
  cases o.answer <;> rfl

/-- **An action that takes the lock** is an operation, but for the form of the answer. -/
theorem run_of_operation? (h : a.operation? = some op) :
    ∃ form : Operation.Result β → Result β, ∀ s,
      a.run s = ⟨(op.run s).state, (op.run s).answer.map form, (op.run s).events⟩ := by
  cases a with
  | operation op' =>
    cases h
    exact ⟨.inl, fun _ => rfl⟩
  | request r =>
    have hread := Http.reading_verdict r
    simp only [operation?] at h
    cases hv : r.verdict with
    | create b =>
      rw [hv] at h hread
      cases h
      refine ⟨overWire, fun s => ?_⟩
      simp only [run, hread.handle_eq_createFuzzer, map_respond]
      rfl
    | update b =>
      rw [hv] at h hread
      cases h
      refine ⟨overWire, fun s => ?_⟩
      simp only [run, hread.handle_eq_updateFeatures, map_respond]
      rfl
    | notFound => rw [hv] at h; cases h
    | notAllowed => rw [hv] at h; cases h
    | rejected why => rw [hv] at h; cases h

/-- **An action that does not take the lock** leaves the service alone, its flag included, and logs
no recovery. -/
theorem run_of_none (h : a.operation? = none) :
    ∃ response : Http.Response, ∀ s, (a.run s).state = s ∧
      (a.run s).answer = .value (.inr response) ∧ recoveries (a.run s).events = 0 := by
  cases a with
  | operation op => cases h
  | request r =>
    have hread := Http.reading_verdict r
    simp only [operation?] at h
    cases hv : r.verdict with
    | create b => rw [hv] at h; cases h
    | update b => rw [hv] at h; cases h
    | notFound =>
      rw [hv] at hread
      refine ⟨{ status := 404 }, fun s => ?_⟩
      have hhandle := hread.handle_notFound s
      exact ⟨congrArg (·.state) hhandle, congrArg (·.answer.map (Sum.inr : _ → Result β)) hhandle,
        congrArg (recoveries ·.events) hhandle⟩
    | notAllowed =>
      rw [hv] at hread
      refine ⟨{ status := 405, allow := some "POST" }, fun s => ?_⟩
      have hhandle := hread.handle_notAllowed s
      exact ⟨congrArg (·.state) hhandle, congrArg (·.answer.map (Sum.inr : _ → Result β)) hhandle,
        congrArg (recoveries ·.events) hhandle⟩
    | rejected why =>
      rw [hv] at hread
      refine ⟨.failed 400 "INVALID_ARGUMENT" ("Invalid request body: " ++ why.message),
        fun s => ?_⟩
      obtain ⟨hstate, hanswer⟩ := hread.handle_rejected s
      refine ⟨hstate, ?_, hread.recoveries_rejected s⟩
      show (Http.handle s r).answer.map Sum.inr = _
      rw [hanswer]
      rfl

/-! ### What one action does -/

theorem operation?_cases (a : Action β) :
    (a.takesLock = true ∧ ∃ op, a.operation? = some op) ∨
      (a.takesLock = false ∧ a.operation? = none) := by
  unfold takesLock
  cases a.operation? with
  | none => exact Or.inr ⟨rfl, rfl⟩
  | some op => exact Or.inl ⟨rfl, op, rfl⟩

theorem isPanic_map {α γ : Type} (f : α → γ) (answer : Answer α) :
    (answer.map f).isPanic = answer.isPanic := by
  cases answer <;> rfl

/-- **The flag after an action** that takes the lock says whether the action ended in a panic, and
any other action leaves it as it is. -/
theorem poisoned_run (s : Service) (a : Action β) :
    (a.run s).state.poisoned = if a.takesLock then (a.run s).answer.isPanic else s.poisoned := by
  rcases a.operation?_cases with ⟨htakes, op, hop⟩ | ⟨htakes, hop⟩
  · obtain ⟨form, hrun⟩ := run_of_operation? hop
    rw [htakes, if_pos rfl, hrun, isPanic_map]
    exact op.poisoned_run s
  · obtain ⟨response, hrun⟩ := run_of_none hop
    rw [htakes, (hrun s).1, if_neg Bool.false_ne_true]

/-- **An action recovers the lock once** if it takes it and finds the flag set. -/
theorem recoveries_run (s : Service) (a : Action β) :
    recoveries (a.run s).events =
      (if a.takesLock && s.poisoned then 1 else 0) + recoveries (a.logged s) := by
  rcases a.operation?_cases with ⟨htakes, op, hop⟩ | ⟨htakes, hop⟩
  · obtain ⟨form, hrun⟩ := run_of_operation? hop
    rw [htakes, Bool.true_and, hrun, logged, hop]
    exact op.recoveries_run s
  · obtain ⟨response, hrun⟩ := run_of_none hop
    rw [htakes, (hrun s).2.2, logged, hop]
    rfl

/-- **The flag fails no action**: without it the answer is the same, and so is what the tracker
knows. -/
theorem run_unpoison (s : Service) (a : Action β) :
    (a.run s.unpoison).answer = (a.run s).answer ∧
      (a.run s.unpoison).state.tracker = (a.run s).state.tracker := by
  rcases a.operation?_cases with ⟨-, op, hop⟩ | ⟨-, hop⟩
  · obtain ⟨form, hrun⟩ := run_of_operation? hop
    obtain ⟨hanswer, hstate⟩ := op.run_unpoison s
    rw [hrun, hrun, hanswer, hstate]
    exact ⟨rfl, rfl⟩
  · obtain ⟨response, hrun⟩ := run_of_none hop
    rw [(hrun s).1, (hrun s).2.1, (hrun s.unpoison).1, (hrun s.unpoison).2.1]
    exact ⟨rfl, rfl⟩

/-- An action ends in a panic only if it takes the lock, the observer is told in it and
panics. -/
theorem exists_reply_of_panicked {message : String} (h : (a.run s).answer = .panicked message) :
    ∃ op p, a.operation? = some op ∧ op.told? s.tracker.state = some p ∧
      s.tracker.observer.reply s.tracker.notified p = .panicked message := by
  rcases a.operation?_cases with ⟨-, op, hop⟩ | ⟨-, hop⟩
  · obtain ⟨form, hrun⟩ := run_of_operation? hop
    rw [hrun] at h
    cases hanswer : (op.run s).answer with
    | value result =>
      rw [hanswer] at h
      cases h
    | panicked why =>
      rw [hanswer] at h
      cases h
      obtain ⟨p, htold, hreply⟩ := Operation.exists_reply_of_panicked hanswer
      exact ⟨op, p, hop, htold, hreply⟩
  · obtain ⟨response, hrun⟩ := run_of_none hop
    rw [(hrun s).2.1] at h
    cases h

theorem wellFormed_run (h : s.tracker.state.WellFormed) (a : Action β) :
    (a.run s).state.tracker.state.WellFormed := by
  rcases a.operation?_cases with ⟨-, op, hop⟩ | ⟨-, hop⟩
  · obtain ⟨form, hrun⟩ := run_of_operation? hop
    rw [hrun]
    exact op.wellFormed_run h
  · obtain ⟨response, hrun⟩ := run_of_none hop
    rw [(hrun s).1]
    exact h

end Action

/-! ## Whole runs -/

/-- An action, and the service that it finds. -/
structure Visit (β : Type) where
  found : Service
  action : Action β

namespace Visit

/-- What the action comes to. -/
def outcome (x : Visit β) : Outcome Service (Action.Result β) :=
  x.action.run x.found

/-- Whether the action ended in a panic. -/
def panicked (x : Visit β) : Bool :=
  x.outcome.answer.isPanic

/-- Whether the last of the visits that took the lock ended in a panic. -/
def endInPanic (visits : List (Visit β)) : Bool :=
  (visits.filter (·.action.takesLock)).getLast?.any (·.panicked)

theorem endInPanic_append (visits : List (Visit β)) (x : Visit β) :
    endInPanic (visits ++ [x]) = if x.action.takesLock then x.panicked else endInPanic visits := by
  unfold endInPanic
  rw [List.filter_append, List.filter_singleton]
  cases x.action.takesLock with
  | true => exact congrArg (Option.any _) List.getLast?_concat
  | false => rw [Bool.cond_false, List.append_nil, if_neg Bool.false_ne_true]

end Visit

namespace Service

/-- The service after actions, one after another. -/
def after (s : Service) (actions : List (Action β)) : Service :=
  actions.foldl (fun s a => (a.run s).state) s

/-- The visits of a run, each action on the service that those before it left. -/
def visits (s : Service) : List (Action β) → List (Visit β)
  | [] => []
  | a :: rest => ⟨s, a⟩ :: (a.run s).state.visits rest

variable {s : Service}

theorem after_append (s : Service) (actions : List (Action β)) (a : Action β) :
    s.after (actions ++ [a]) = (a.run (s.after actions)).state := by
  unfold after
  rw [List.foldl_append]
  rfl

theorem visits_append (s : Service) (actions : List (Action β)) (a : Action β) :
    s.visits (actions ++ [a]) = s.visits actions ++ [⟨s.after actions, a⟩] := by
  induction actions generalizing s with
  | nil => rfl
  | cons b rest ih => exact congrArg (⟨s, b⟩ :: ·) (ih (b.run s).state)

/-- **The flag after a run** says how the last visit ended that took the lock. -/
theorem poisoned_after (h : s.poisoned = false) (actions : List (Action β)) :
    (s.after actions).poisoned = Visit.endInPanic (s.visits actions) := by
  induction actions using List.reverseRecOn with
  | nil => exact h
  | append_singleton actions a ih =>
    rw [s.after_append, s.visits_append, Visit.endInPanic_append, a.poisoned_run, ih]
    rfl

/-- What is known is sound after any run. -/
theorem wellFormed_after (h : s.tracker.state.WellFormed) (actions : List (Action β)) :
    (s.after actions).tracker.state.WellFormed := by
  induction actions using List.reverseRecOn with
  | nil => exact h
  | append_singleton actions a ih =>
    rw [s.after_append]
    exact a.wellFormed_run ih

end Service

/-- **Every panic is recovered once.** Take a new service before any observer, any earlier actions
on it (operations, and requests to its router) and one action more. That action ends in a panic
only if it takes the lock and the observer panics in it, whether the lock is poisoned or not: with
the flag cleared beforehand it answers the same and leaves the same tracker. It logs the recovery
of the lock, once, if and only if it takes the lock and the last action before it that took the
lock ended in a panic; what the observer itself logs is counted apart. An action that does not take
the lock logs no recovery and leaves the service, its flag included, as it is. After the action the
flag says whether the last action that took the lock ended in a panic, there is a bit for each
node, and the count is that of the set bits. -/
theorem lock_recovered_once (p : UInt64) (o : Observer) (earlier : List (Action β))
    (a : Action β) :
    let s := Service.ofTracker (Tracker.start p o)
    let x : Visit β := ⟨s.after earlier, a⟩
    s.visits (earlier ++ [a]) = s.visits earlier ++ [x] ∧
      (∀ message, x.outcome.answer = .panicked message →
        ∃ op p, a.operation? = some op ∧ op.told? x.found.tracker.state = some p ∧
          x.found.tracker.observer.reply x.found.tracker.notified p = .panicked message) ∧
      (a.run x.found.unpoison).answer = x.outcome.answer ∧
      (a.run x.found.unpoison).state.tracker = x.outcome.state.tracker ∧
      recoveries x.outcome.events =
        (if a.takesLock && Visit.endInPanic (s.visits earlier) then 1 else 0) +
          recoveries (a.logged x.found) ∧
      (a.takesLock = false → x.outcome.state = x.found ∧ recoveries x.outcome.events = 0) ∧
      x.outcome.state.poisoned = Visit.endInPanic (s.visits earlier ++ [x]) ∧
      ∀ c, x.outcome.state.tracker.state = .tracking c →
        c.seen.size = c.graph.size ∧ c.covered = c.seen.count true := by
  intro s x
  have hflag : (s.after earlier).poisoned = Visit.endInPanic (s.visits earlier) :=
    Service.poisoned_after rfl earlier
  refine ⟨s.visits_append earlier a, fun _ hpanic => Action.exists_reply_of_panicked hpanic,
    (a.run_unpoison _).1, (a.run_unpoison _).2, ?_, ?_, ?_, ?_⟩
  · rw [← hflag]
    exact a.recoveries_run _
  · intro htakes
    rcases a.operation?_cases with ⟨htakes', -⟩ | ⟨-, hop⟩
    · rw [htakes] at htakes'
      cases htakes'
    · obtain ⟨response, hrun⟩ := Action.run_of_none hop
      exact ⟨(hrun _).1, (hrun _).2.2⟩
  · rw [Visit.endInPanic_append, ← hflag]
    exact a.poisoned_run _
  · intro c hc
    have hnew : s.tracker.state.WellFormed := trivial
    have hsound := a.wellFormed_run (Service.wellFormed_after hnew earlier)
    rw [show (a.run (s.after earlier)).state.tracker.state = .tracking c from hc] at hsound
    have hagree : c.WellFormed := hsound
    exact ⟨hagree.size_seen, hagree.covered_eq⟩

/-- The panic of the second action is logged by the fourth, the first after it to take the lock. -/
example :
    let s := Service.ofTracker (Tracker.start 0 .panicking)
    let actions : List (Action Nat) := [
      .operation (.call (.create { structureGraph := some (.withNodes 3) })),
      .operation (.call (.update (.ofIndices [{ val := 2 }]))),
      .request ⟨"GET", .origin { path := "/" }, [], []⟩,
      .operation (.read fun p _ => p.toNat),
      .operation (.call (.update (.ofIndices [{ val := 2 }])))]
    (s.visits actions).map (fun x => (x.panicked, recoveries x.outcome.events)) =
      [(false, 0), (true, 0), (false, 0), (false, 1), (false, 0)] := by
  decide +kernel

end NodeCoverage
