import NodeCoverage.Proofs.Batch

/-!
# Data that is carried along

Of a graph only the number of its nodes counts, of a hit only its index, and of an id only whether
it is that of the primary client. Two services that show the same, whatever graphs they hold, go
through requests that agree in what counts (`ServiceCall.Matches`). They answer the same and show
the same after each of them.

The relation that carries the proof is that one coverage is the other with another graph in it. The
loop over a batch never looks at the graph, so it keeps that (`applyHits_regraph`).

Results:
* `SameView.exists_graph`: coverage that shows the same differs in the graph alone;
* `SameView.register`, `SameView.reportHits`: what one call of the tracker keeps;
* `ServiceCall.Matches.run`: what one request keeps;
* **`matching_runs_show_the_same`**: runs of any length.
-/

namespace NodeCoverage

namespace Coverage

variable {c d : Coverage} {indices : List Int}

/-- The same coverage of another graph. -/
def regraph (c : Coverage) (g : StructureGraph) : Coverage :=
  { c with graph := g }

/-- **The loop over a batch does not look at the graph.** -/
theorem applyHits_regraph (c : Coverage) (g : StructureGraph) (fresh : Bool) (indices : List Int) :
    (c.regraph g).applyHits fresh indices =
      ((c.applyHits fresh indices).1.regraph g, (c.applyHits fresh indices).2) := by
  fun_induction applyHits c fresh indices with
  | case1 => rfl
  | case2 c fresh index rest hs =>
    have hs' : (c.regraph g).slot? index = none := hs
    simp only [applyHits, hs']
    rfl
  | case3 c fresh index rest slot hs seen ih =>
    have hs' : (c.regraph g).slot? index = some slot := hs
    have seen' : (c.regraph g).seen[slot] = true := seen
    simp only [applyHits, hs', ih]
    exact if_pos seen'
  | case4 c fresh index rest slot hs unseen ih =>
    have hs' : (c.regraph g).slot? index = some slot := hs
    have unseen' : ¬ (c.regraph g).seen[slot] = true := unseen
    have hmark : (c.regraph g).mark slot = (c.mark slot).regraph g := rfl
    simp only [applyHits, hs', hmark, ih]
    exact if_neg unseen'

theorem after_regraph (c : Coverage) (g : StructureGraph) (indices : List Int) :
    (c.regraph g).after indices = (c.after indices).regraph g :=
  congrArg Prod.fst (c.applyHits_regraph g false indices)

/-- Coverage that is read the same differs in the graph alone. -/
theorem exists_eq_regraph (hc : c.covered = d.covered) (hs : ∀ i, c.isSeen? i = d.isSeen? i) :
    ∃ g, d = c.regraph g :=
  ⟨d.graph, ext_isSeen? rfl hc.symm fun i => (hs i).symm⟩

end Coverage

namespace Tracker

variable {t t' : Tracker} {c : Coverage}

/-- Two trackers show the same: they have one primary client and one observer, which has been told
the same in the same order, and nothing that can be read of the nodes tells them apart. -/
structure SameView (t t' : Tracker) : Prop where
  primaryId_eq : t.primaryId = t'.primaryId
  observer_eq : t.observer = t'.observer
  notified_eq : t.notified = t'.notified
  isTracking_eq : t.isTracking = t'.isTracking
  covered_eq : t.covered = t'.covered
  total_eq : t.total = t'.total
  isSeen?_eq : ∀ i, t.isSeen? i = t'.isSeen? i

theorem SameView.refl (t : Tracker) : t.SameView t :=
  ⟨rfl, rfl, rfl, rfl, rfl, rfl, fun _ => rfl⟩

/-- The same tracker on another graph of as many nodes shows the same. -/
theorem sameView_regraph (t : Tracker) (c : Coverage) (g : StructureGraph) :
    SameView { t with state := .tracking c } { t with state := .tracking (c.regraph g) } :=
  ⟨rfl, rfl, rfl, rfl, rfl, rfl, fun _ => rfl⟩

namespace SameView

theorem uninitialized (h : t.SameView t') (ht : t.state = .uninitialized) :
    t'.state = .uninitialized := by
  have hnone := h.isTracking_eq
  cases ht' : t'.state with
  | uninitialized => rfl
  | tracking d => simp [isTracking, coverage?, TrackerState.coverage?, ht, ht'] at hnone

/-- **The two hold the same coverage**, of graphs that may differ. -/
theorem exists_graph (h : t.SameView t') (ht : t.state = .tracking c) :
    ∃ g, t'.state = .tracking (c.regraph g) := by
  obtain ⟨-, -, -, hsome, hcovered, -, hseen⟩ := h
  cases ht' : t'.state with
  | uninitialized => simp [isTracking, coverage?, TrackerState.coverage?, ht, ht'] at hsome
  | tracking d =>
    simp only [covered, coverage?, TrackerState.coverage?, ht, ht', Option.elim_some] at hcovered
    simp only [isSeen?, coverage?, TrackerState.coverage?, ht, ht', Option.bind_some] at hseen
    obtain ⟨g, rfl⟩ := Coverage.exists_eq_regraph hcovered hseen
    exact ⟨g, rfl⟩

/-- Two trackers that show the same are one tracker, of two graphs if it has one. -/
theorem exists_eq (h : t.SameView t') :
    (t.state = .uninitialized ∧ t' = t) ∨
      ∃ c g, t.state = .tracking c ∧ t' = { t with state := .tracking (c.regraph g) } := by
  have hid := h.primaryId_eq
  have hobserver := h.observer_eq
  have hnotified := h.notified_eq
  cases ht : t.state with
  | uninitialized =>
    have ht' := h.uninitialized ht
    refine Or.inl ⟨rfl, ?_⟩
    cases t
    cases t'
    simp_all
  | tracking c =>
    obtain ⟨g, ht'⟩ := h.exists_graph ht
    refine Or.inr ⟨c, g, rfl, ?_⟩
    cases t
    cases t'
    simp_all

/-! ## One call of the tracker -/

/-- A registration starts over with nothing seen, so that only the number of the nodes is shown. -/
theorem register (h : t.SameView t') {i i' : Int} {g g' : StructureGraph}
    (hid : i = t.primaryId.toNat ↔ i' = t.primaryId.toNat) (hg : g.size = g'.size) :
    (t.register i g).state.SameView (t'.register i' g').state := by
  have hprimary : isPrimary t'.primaryId i' = isPrimary t.primaryId i := by
    rw [Bool.eq_iff_iff, isPrimary_iff, isPrimary_iff, ← h.primaryId_eq]
    exact hid.symm
  have hstart : Coverage.start g' = (Coverage.start g).regraph g' := by
    simp only [Coverage.start, Coverage.regraph, hg]
  simp only [Tracker.register, hprimary]
  split
  · obtain ⟨-, rfl⟩ | ⟨c, g₀, -, rfl⟩ := h.exists_eq
    · rw [hstart]
      exact sameView_regraph _ _ _
    · rw [hstart]
      exact sameView_regraph _ _ _
  · exact h

/-- **A report** is answered the same, by one observer with one history, and shows the same
after it. -/
theorem reportHits (h : t.SameView t') (indices : List Int) :
    (t.reportHits indices).answer = (t'.reportHits indices).answer ∧
      (t.reportHits indices).state.SameView (t'.reportHits indices).state := by
  obtain ⟨-, rfl⟩ | ⟨c, g, hc, rfl⟩ := h.exists_eq
  · exact ⟨rfl, .refl _⟩
  · have hgraph : ({ t with state := .tracking (c.regraph g) } : Tracker).state =
        .tracking (c.regraph g) := rfl
    have hsame : (c.regraph g).Announces indices ↔ c.Announces indices := Iff.rfl
    constructor
    · by_cases ha : c.Announces indices
      · rw [(reportHits_of_announces hc ha).1, (reportHits_of_announces hgraph (hsame.mpr ha)).1,
          Coverage.after_regraph]
        rfl
      · rw [(reportHits_of_not_announces hc ha).1,
          (reportHits_of_not_announces hgraph (mt hsame.mp ha)).1, Coverage.applyHits_regraph]
    · have hprogress : ((c.after indices).regraph g).progress = (c.after indices).progress := rfl
      rw [state_reportHits hc, state_reportHits hgraph, Coverage.after_regraph, hprogress]
      simp only [hsame]
      exact ⟨rfl, rfl, rfl, rfl, rfl, rfl, fun _ => rfl⟩

end SameView

end Tracker

/-! ## Requests -/

/-- The number of the nodes that a registration brings, which is zero without a graph. -/
def CreateFuzzerRequest.nodeCount (r : CreateFuzzerRequest) : Nat :=
  r.structureGraph.elim 0 (·.size)

theorem CreateFuzzerRequest.size_getD (r : CreateFuzzerRequest) :
    (r.structureGraph.getD {}).size = r.nodeCount := by
  unfold nodeCount
  cases r.structureGraph <;> rfl

/-- Two requests agree in what counts: they report the same indices, or register as many nodes for
ids that are both primary or both not. -/
inductive ServiceCall.Matches (p : UInt64) : ServiceCall → ServiceCall → Prop
  | create {r r' : CreateFuzzerRequest} :
      (r.fuzzerId.val = p.toNat ↔ r'.fuzzerId.val = p.toNat) → r.nodeCount = r'.nodeCount →
      Matches p (.create r) (.create r')
  | update {r r' : UpdateFeaturesRequest} : r.indices = r'.indices →
      Matches p (.update r) (.update r')

/-- What each request of a run comes to. -/
def Service.outcomes (s : Service) :
    List ServiceCall → List (Outcome Service (Except ServiceError Acknowledgement))
  | [] => []
  | call :: rest => call.run s :: (call.run s).state.outcomes rest

/-- Two requests are answered the same and leave services that show the same. -/
structure SameShown (o o' : Outcome Service (Except ServiceError Acknowledgement)) : Prop where
  answer_eq : o.answer = o'.answer
  view : o.state.tracker.SameView o'.state.tracker

variable {s s' : Service} {call call' : ServiceCall} {calls calls' : List ServiceCall}

theorem ServiceCall.primaryId_run (s : Service) (call : ServiceCall) :
    (call.run s).state.tracker.primaryId = s.tracker.primaryId := by
  cases call with
  | create r =>
    show (s.createFuzzer r).state.tracker.primaryId = _
    rw [Service.tracker_createFuzzer, Tracker.primaryId_step]
  | update r =>
    show (s.updateFeatures r).state.tracker.primaryId = _
    rw [Service.tracker_updateFeatures, Tracker.primaryId_step]

/-- **One request** keeps what is shown. -/
theorem ServiceCall.Matches.run (hc : Matches s.tracker.primaryId call call')
    (hs : s.tracker.SameView s'.tracker) : SameShown (call.run s) (call'.run s') := by
  cases hc with
  | @create r r' hid hsize =>
    rw [← r.size_getD, ← r'.size_getD] at hsize
    exact ⟨rfl, hs.register hid hsize⟩
  | @update r r' hindices =>
    obtain ⟨hanswer, hview⟩ := hs.reportHits r.indices
    rw [hindices] at hanswer hview
    constructor
    · show (s.updateFeatures r).answer = (s'.updateFeatures r').answer
      rw [Service.answer_updateFeatures_eq, Service.answer_updateFeatures_eq, hindices, hanswer]
    · show (s.updateFeatures r).state.tracker.SameView (s'.updateFeatures r').state.tracker
      rw [Service.tracker_updateFeatures, Service.tracker_updateFeatures, hindices]
      exact hview

/-- **Runs of requests that agree in what counts** show the same. Take two services that show the
same, such as two new ones with one primary client and one observer, whatever graphs they may hold.
Send one of them some requests, and the other as many that agree with these one by one: a report in
its indices, with any counters, client and corpus; a registration in the number of the nodes, with
any edges and functions, and in whether the primary client sends it. Each request is answered the
same by both, and after it they show the same: what the observer has been told, whether there is a
graph, how many nodes it has, how many of them have been seen, and which. -/
theorem matching_runs_show_the_same (hs : s.tracker.SameView s'.tracker)
    (hc : List.Forall₂ (ServiceCall.Matches s.tracker.primaryId) calls calls') :
    List.Forall₂ SameShown (s.outcomes calls) (s'.outcomes calls') := by
  generalize hp : s.tracker.primaryId = p at hc
  induction hc generalizing s s' with
  | nil => exact .nil
  | @cons call call' rest rest' hcall _ ih =>
    rw [← hp] at hcall
    have hshown := hcall.run hs
    exact .cons hshown (ih hshown.view (by rw [ServiceCall.primaryId_run, hp]))

/-- A graph with edges and one without, the same hits with and without counters: a primary client
registers each of them and reports the nodes 2 and 0, and then a node that neither graph has. -/
theorem matching_runs_show_the_same_two_graphs :
    let s := Service.ofTracker (.start 0 .recording)
    let linked : StructureGraph :=
      { nodes := [{ successors := [1, 2] }, { predecessors := [0] }, { predecessors := [0] }]
        functions := [{ name := "main", nodeIndices := [0, 1] }] }
    let calls : List ServiceCall := [
      .create { structureGraph := some linked },
      .update { fuzzerId := { val := 7 }
                bitCounters := [⟨{ val := 2 }, 4⟩, ⟨{ val := 0 }, 1⟩], corpusId := some 9 },
      .update (.ofIndices [{ val := 1 }, { val := 3 }])]
    let calls' : List ServiceCall := [
      .create { structureGraph := some (.withNodes 3) },
      .update (.ofIndices [{ val := 2 }, { val := 0 }]),
      .update { bitCounters := [⟨{ val := 1 }, 255⟩, ⟨{ val := 3 }, 0⟩] }]
    List.Forall₂ SameShown (s.outcomes calls) (s.outcomes calls') ∧
      (s.outcomes calls).map (·.answer) =
        [.value (.ok {}), .value (.ok {}), .value (.error (.batch (.indexOutOfRange 3 3)))] ∧
      (s.outcomes calls).map (·.state.tracker.covered) = [0, 2, 3] := by
  intro s linked calls calls'
  have hmatch : List.Forall₂ (ServiceCall.Matches 0) calls calls' :=
    .cons (.create (by decide) rfl) (.cons (.update rfl) (.cons (.update rfl) .nil))
  exact ⟨matching_runs_show_the_same (.refl s.tracker) hmatch, rfl, rfl⟩

end NodeCoverage
