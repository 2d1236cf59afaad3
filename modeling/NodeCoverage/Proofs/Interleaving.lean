import NodeCoverage.Proofs.Notification
import NodeCoverage.Proofs.Reply

/-!
# Concurrent clients

Several clients report hits to one service. A call holds the lock for as long as it works on the
tracker, so what happens is one of the orders that keep each client's own order (`Interleaves`).

Results:
* `tracker_updateAll`: the tracker goes through the batches as in a run of its own;
* `answers_updateAll`: on a graph, the answer to a request is a function of the request and the
  number of nodes (`replyTo`), so that no other client can change it;
* `reported_eq_of_interleaves`: the nodes reported do not depend on the order;
* **`interleavings_agree`**: any two orders end with the same coverage and give every call the
  same answer. What does depend on the order are the notifications before the last one.
-/

namespace NodeCoverage

variable {ι : Type} [DecidableEq ι]

/-! ## Orders of calls -/

/-- What belongs to one client, in order. -/
def lane {α : Type} (k : ι) (xs : List (ι × α)) : List α :=
  (xs.filter fun x => x.1 = k).map Prod.snd

/-- The calls are those of the clients, each client's own calls in their order. -/
def Interleaves (clients : ι → List UpdateFeaturesRequest)
    (xs : List (ι × UpdateFeaturesRequest)) : Prop :=
  ∀ k, lane k xs = clients k

theorem mem_lane {α : Type} {k : ι} {a : α} {xs : List (ι × α)} : a ∈ lane k xs ↔ (k, a) ∈ xs := by
  simp [lane]

theorem lane_map {α β : Type} (f : α → β) (k : ι) (xs : List (ι × α)) :
    lane k (xs.map fun x => (x.1, f x.2)) = (lane k xs).map f := by
  simp [lane, List.filter_map, Function.comp_def]

theorem Interleaves.mem_iff {clients : ι → List UpdateFeaturesRequest}
    {xs : List (ι × UpdateFeaturesRequest)} (h : Interleaves clients xs) {k : ι}
    {r : UpdateFeaturesRequest} : (k, r) ∈ xs ↔ r ∈ clients k := by
  rw [← h k, mem_lane]

/-- The batches of some calls. -/
def batches (xs : List (ι × UpdateFeaturesRequest)) : List Call :=
  xs.map fun x => .report x.2.indices

omit [DecidableEq ι] in
theorem noPrimary_batches (p : UInt64) (xs : List (ι × UpdateFeaturesRequest)) :
    NoPrimary p (batches xs) := by
  intro call hm
  obtain ⟨x, -, rfl⟩ := List.mem_map.mp hm
  exact not_false

theorem mem_reported_batches {clients : ι → List UpdateFeaturesRequest}
    {xs : List (ι × UpdateFeaturesRequest)} (h : Interleaves clients xs) {n i : Nat} :
    i ∈ reported n (batches xs) ↔ ∃ k, ∃ r ∈ clients k, (i : Int) ∈ reach n r.indices := by
  rw [mem_reported]
  constructor
  · rintro ⟨indices, hm, hi⟩
    obtain ⟨⟨k, r⟩, hx, he⟩ := List.mem_map.mp hm
    obtain rfl := Call.report.inj he
    exact ⟨k, r, h.mem_iff.mp hx, hi⟩
  · rintro ⟨k, r, hr, hi⟩
    exact ⟨r.indices, List.mem_map.mpr ⟨(k, r), h.mem_iff.mpr hr, rfl⟩, hi⟩

theorem reported_eq_of_interleaves {clients : ι → List UpdateFeaturesRequest}
    {xs ys : List (ι × UpdateFeaturesRequest)} (hx : Interleaves clients xs)
    (hy : Interleaves clients ys) (n : Nat) :
    reported n (batches xs) = reported n (batches ys) := by
  ext i
  rw [mem_reported_batches hx, mem_reported_batches hy]

/-! ## The calls on the service -/

namespace Service

variable {s : Service} {g : StructureGraph} {S : Finset Nat}

/-- The service and the answers after some calls, each answer with the client that it goes to. -/
def updateAll (s : Service) : List (ι × UpdateFeaturesRequest) →
    Service × List (ι × Answer (Except ServiceError Acknowledgement))
  | [] => (s, [])
  | (k, r) :: rest =>
    let first := s.updateFeatures r
    let others := first.state.updateAll rest
    (others.1, (k, first.answer) :: others.2)

omit [DecidableEq ι] in
/-- The tracker goes through the batches as in a run of its own. -/
theorem tracker_updateAll (s : Service) (xs : List (ι × UpdateFeaturesRequest)) :
    (s.updateAll xs).1.tracker = s.tracker.run (batches xs) := by
  induction xs generalizing s with
  | nil => rfl
  | cons x rest ih =>
    rw [updateAll, ih, tracker_updateFeatures]
    rfl

/-- On a graph the answer depends on the request and the number of nodes alone. -/
theorem answer_updateFeatures_of_tracks (h : s.tracker.Tracks g S)
    (ho : s.tracker.observer.NeverPanics) (r : UpdateFeaturesRequest) :
    (s.updateFeatures r).answer = .value (replyTo g.size r) := by
  obtain ⟨c, hc, hwf, rfl, -⟩ := h
  rw [answer_updateFeatures ho, hc, reply, hwf.total_eq]

omit [DecidableEq ι] in
/-- **No client can change another one's answers.** -/
theorem answers_updateAll (h : s.tracker.Tracks g S) (ho : s.tracker.observer.NeverPanics)
    (xs : List (ι × UpdateFeaturesRequest)) :
    (s.updateAll xs).2 = xs.map fun x => (x.1, .value (replyTo g.size x.2)) := by
  induction xs generalizing s S with
  | nil => rfl
  | cons x rest ih =>
    have hreport : ¬ (Call.report x.2.indices).IsPrimary s.tracker.primaryId := not_false
    have hstep : (s.updateFeatures x.2).state.tracker.Tracks g (S ∪ hits g.size x.2.indices) := by
      rw [tracker_updateFeatures]
      exact h.step hreport
    have hobserver : (s.updateFeatures x.2).state.tracker.observer.NeverPanics := by
      rwa [tracker_updateFeatures, Tracker.observer_step]
    rw [updateAll, List.map_cons, answer_updateFeatures_of_tracks h ho, ih hstep hobserver]

omit [DecidableEq ι] in
/-- When every answer is positive, every index names a node. -/
theorem forall_inGraph_of_answers (h : s.tracker.Tracks g S) (ho : s.tracker.observer.NeverPanics)
    {xs : List (ι × UpdateFeaturesRequest)}
    (hok : ∀ a ∈ (s.updateAll xs).2, a.2 = .value (.ok {})) (indices : List Int)
    (hm : Call.report indices ∈ batches xs) : ∀ index ∈ indices, InGraph g.size index := by
  obtain ⟨x, hx, he⟩ := List.mem_map.mp hm
  obtain rfl := Call.report.inj he
  rw [answers_updateAll h ho] at hok
  have hreply := hok _ (List.mem_map_of_mem hx)
  exact replyTo_eq_ok_iff.mp (Answer.value.inj hreply)

/-- **The order of concurrent calls does not matter**, apart from the notifications on the way.
Take a service that tracks a graph, with any of its nodes seen and an observer that never panics,
and two orders of the calls of some clients. Both end with one coverage `d`: the graph is the same,
a node counts as seen iff it was before or occurs in some batch before the first index that names
no node, and the counter is the number of the nodes seen. Each client gets the same answers, and
these depend on its own requests alone. On the way the counts told strictly increase, and when
every call succeeds and a node is new, the last and largest of them are the counts at the end. -/
theorem interleavings_agree {s : Service} {c : Coverage} (hs : s.tracker.state = .tracking c)
    (hc : c.WellFormed) (ho : s.tracker.observer.NeverPanics)
    {clients : ι → List UpdateFeaturesRequest} {xs ys : List (ι × UpdateFeaturesRequest)}
    (hx : Interleaves clients xs) (hy : Interleaves clients ys) :
    ∃ d : Coverage,
      ((s.updateAll xs).1.tracker.state = .tracking d ∧
        (s.updateAll ys).1.tracker.state = .tracking d) ∧
      (d.graph = c.graph ∧ d.total = c.total ∧ d.covered = d.seen.count true ∧
        ∀ i, d.isSeen? i = some true ↔
          c.isSeen? i = some true ∨ ∃ k, ∃ r ∈ clients k, (i : Int) ∈ reach c.total r.indices) ∧
      (∀ k, lane k (s.updateAll xs).2 = lane k (s.updateAll ys).2 ∧
        lane k (s.updateAll xs).2 = (clients k).map fun r => .value (replyTo c.total r)) ∧
      (Tracker.toldSince s.tracker (s.updateAll xs).1.tracker).Pairwise
        (fun q r => q.covered < r.covered) ∧
      ((∀ a ∈ (s.updateAll xs).2, a.2 = .value (.ok {})) →
        (∃ i, c.isSeen? i = some false ∧ d.isSeen? i = some true) →
        let told := Tracker.toldSince s.tracker (s.updateAll xs).1.tracker
        told.getLast? = some ⟨d.covered, c.total⟩ ∧ ∀ q ∈ told, q.covered ≤ d.covered) := by
  have htracks : s.tracker.Tracks c.graph c.seenNodes := ⟨c, hs, hc, rfl, rfl⟩
  have hno : ∀ zs : List (ι × UpdateFeaturesRequest),
      NoPrimary s.tracker.primaryId (batches zs) := noPrimary_batches _
  obtain ⟨d, hd, hwf, hg, hnodes⟩ := htracks.run (hno xs)
  have hlane : ∀ {zs}, Interleaves clients zs → ∀ k,
      lane k (s.updateAll zs).2 = (clients k).map fun r => .value (replyTo c.total r) := by
    intro zs hz k
    rw [answers_updateAll htracks ho, hc.total_eq, ← hz k]
    exact lane_map (fun r => Answer.value (replyTo c.graph.size r)) k zs
  have hasc := htracks.ascending_told (hno xs)
  rw [tracker_updateAll, tracker_updateAll]
  refine ⟨d, ⟨hd, ?_⟩, ⟨hg, ?_, hwf.covered_eq, fun i => ?_⟩, fun k => ⟨?_, hlane hx k⟩,
    hasc.increasing, fun hok hnew => ?_⟩
  · rw [← hd]
    refine (htracks.run (hno ys)).state_eq ?_
    rw [← reported_eq_of_interleaves hx hy]
    exact htracks.run (hno xs)
  · rw [hwf.total_eq, hg, hc.total_eq]
  · rw [← Coverage.mem_seenNodes, ← Coverage.mem_seenNodes, hnodes, Finset.mem_union,
      mem_reported_batches hx, hc.total_eq]
  · rw [hlane hx, hlane hy]
  · obtain ⟨i, hbefore, hafter⟩ := hnew
    have hfresh : ¬ reported c.graph.size (batches xs) ⊆ c.seenNodes := by
      intro hsub
      rw [← Coverage.mem_seenNodes, hnodes, Finset.union_eq_left.mpr hsub,
        Coverage.mem_seenNodes, hbefore] at hafter
      exact absurd hafter (by simp)
    have hcovered : d.covered = (c.seenNodes ∪ reported c.graph.size (batches xs)).card := by
      rw [hwf.covered_eq_card, hnodes]
    have hlast := htracks.getLast?_told (hno xs) (forall_inGraph_of_answers htracks ho hok) hfresh
    rw [hcovered, hc.total_eq]
    exact ⟨hlast, fun q hq => hasc.le_getLast? hlast hq⟩

/-- Two clients on a graph of three nodes: one reports the nodes 0 and 2 and then 1, the other
reports 2 twice at once. -/
theorem interleavings_agree_two_clients :
    let s := Service.ofTracker
      { primaryId := 0, observer := .silent, state := .tracking (.start (.withNodes 3)) }
    let first := UpdateFeaturesRequest.ofIndices [{ val := 0 }, { val := 2 }]
    let second := UpdateFeaturesRequest.ofIndices [{ val := 1 }]
    let other := UpdateFeaturesRequest.ofIndices [{ val := 2 }, { val := 2 }]
    let xs := [(true, first), (false, other), (true, second)]
    let ys := [(false, other), (true, first), (true, second)]
    ∃ d, (s.updateAll xs).1.tracker.state = .tracking d ∧
      (s.updateAll ys).1.tracker.state = .tracking d ∧
      (Tracker.toldSince s.tracker (s.updateAll xs).1.tracker).getLast? = some ⟨d.covered, 3⟩ := by
  intro s first second other xs ys
  have hys : Interleaves (fun k => lane k xs) ys := by
    intro k
    revert k
    decide
  obtain ⟨d, ⟨hx, hy⟩, ⟨-, -, -, hseen⟩, -, -, hlast⟩ :=
    interleavings_agree (s := s) (c := .start (.withNodes 3)) rfl (Coverage.wellFormed_start _)
      Observer.neverPanics_silent (fun _ => rfl) hys
  have hnew : d.isSeen? 1 = some true :=
    (hseen 1).mpr (Or.inr ⟨true, second, by decide, by decide⟩)
  exact ⟨d, hx, hy, (hlast (by decide) ⟨1, by decide, hnew⟩).1⟩

end Service

end NodeCoverage
