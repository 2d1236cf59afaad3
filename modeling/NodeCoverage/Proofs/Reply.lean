import NodeCoverage.Proofs.Run
import NodeCoverage.Service

/-!
# What the service answers

A call of the service is a call of its tracker under the lock, and what it answers is known from
the state before it and the request alone, as long as the observer does not panic.

Results:
* `tracker_createFuzzer`, `tracker_updateFeatures`: the calls of the tracker behind the two calls
  of the service;
* `answer_createFuzzer`: a registration is always acknowledged;
* `answer_updateFeatures`: a report is answered with `reply`, which needs a graph and otherwise
  looks for the first index that names no node;
* `ServiceCall.exists_answer_run`: a request of either kind is answered, and fails only where the
  tracker does.
-/

namespace NodeCoverage

theorem Observer.neverPanics_silent : silent.NeverPanics := by
  intro earlier p message
  simp [silent]

/-- A request that reports some indices and carries nothing else. -/
def UpdateFeaturesRequest.ofIndices (indices : List Int128) : UpdateFeaturesRequest where
  bitCounters := indices.map fun index => { nodeIndex := index }

/-- The answer to a request on a graph of `n` nodes: its first index that names no node is the
error. -/
def replyTo (n : Nat) (r : UpdateFeaturesRequest) : Except ServiceError Acknowledgement :=
  match firstOutside? n r.indices with
  | none => .ok {}
  | some index => .error (.batch (.indexOutOfRange index n))

/-- The answer to a request in a state. -/
def reply (state : TrackerState) (r : UpdateFeaturesRequest) :
    Except ServiceError Acknowledgement :=
  match state with
  | .uninitialized => .error (.batch .notInitialized)
  | .tracking c => replyTo c.total r

theorem replyTo_eq_ok_iff {n : Nat} {r : UpdateFeaturesRequest} :
    replyTo n r = .ok {} ↔ ∀ index ∈ r.indices, InGraph n index := by
  rw [← firstOutside?_eq_none_iff]
  unfold replyTo
  cases firstOutside? n r.indices <;> simp

namespace Service

variable {s : Service}

theorem tracker_createFuzzer (s : Service) (r : CreateFuzzerRequest) :
    (s.createFuzzer r).state.tracker =
      s.tracker.step (.register r.fuzzerId.val (r.structureGraph.getD {})) :=
  rfl

/-- A registration is acknowledged, whoever sends it. -/
theorem answer_createFuzzer (s : Service) (r : CreateFuzzerRequest) :
    (s.createFuzzer r).answer = .value (.ok {}) :=
  rfl

theorem tracker_updateFeatures (s : Service) (r : UpdateFeaturesRequest) :
    (s.updateFeatures r).state.tracker = s.tracker.step (.report r.indices) := by
  unfold updateFeatures
  simp only [locked]
  split <;> rfl

/-- **The answer to a report** is known beforehand when the observer never panics. -/
theorem answer_updateFeatures (ho : s.tracker.observer.NeverPanics) (r : UpdateFeaturesRequest) :
    (s.updateFeatures r).answer = .value (reply s.tracker.state r) := by
  cases h : s.tracker.state with
  | uninitialized =>
    unfold updateFeatures reply
    simp only [locked, Tracker.reportHits_uninitialized h]
  | tracking c =>
    have hanswer := Tracker.answer_reportHits h ho r.indices
    rw [Coverage.answer_applyHits] at hanswer
    unfold updateFeatures reply replyTo
    simp only [locked, hanswer]
    cases firstOutside? c.total r.indices <;> rfl

end Service

/-- A request of the service. -/
inductive ServiceCall where
  | create (a : CreateFuzzerRequest)
  | update (a : UpdateFeaturesRequest)

/-- The direct call. -/
def ServiceCall.run (s : Service) :
    ServiceCall → Outcome Service (Except ServiceError Acknowledgement)
  | .create a => s.createFuzzer a
  | .update a => s.updateFeatures a

/-- A direct call fails only where the tracker does. -/
theorem ServiceCall.exists_answer_run {s : Service} (ho : s.tracker.observer.NeverPanics)
    (c : ServiceCall) : ∃ result : Except BatchError Acknowledgement,
      (c.run s).answer = .value (result.mapError .batch) := by
  cases c with
  | create a => exact ⟨.ok {}, s.answer_createFuzzer a⟩
  | update a =>
    rw [run, Service.answer_updateFeatures ho]
    cases s.tracker.state with
    | uninitialized => exact ⟨.error .notInitialized, rfl⟩
    | tracking coverage =>
      simp only [reply, replyTo]
      cases firstOutside? coverage.total a.indices with
      | none => exact ⟨.ok {}, rfl⟩
      | some index => exact ⟨.error (.indexOutOfRange index coverage.total), rfl⟩

end NodeCoverage
