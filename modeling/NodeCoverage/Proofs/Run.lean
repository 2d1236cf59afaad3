import Mathlib.Data.Set.Card
import NodeCoverage.Proofs.Seen
import NodeCoverage.Tracker

/-!
# Runs of the tracker

A run is a list of calls, registrations and batches, made one after another on a tracker. What a
tracker knows is a graph and the set of its nodes that have been seen (`Tracker.Tracks`). A
registration by the primary client starts over with its graph and the empty set, a batch adds the
nodes that it gets to, and any other call changes nothing.

Results:
* `state_reportHits`: everything that a batch changes, the announcement included;
* `Tracks.step`, `Tracks.run`: between two registrations by the primary client the graph stays and
  the set grows by `reported`, the nodes that the batches get to;
* `wellFormed_run_start`: the invariant of the coverage holds after any run;
* **`run_start`**: the state after any run from a new tracker, in closed form. It depends on the
  last registration by the primary client and the batches after it alone.
-/

namespace NodeCoverage

/-! ## One batch -/

namespace Coverage

/-- The coverage after a batch. -/
def after (c : Coverage) (indices : List Int) : Coverage :=
  (c.applyHits false indices).1

/-- The batch reaches its end and a node of it is new. -/
def Announces (c : Coverage) (indices : List Int) : Prop :=
  (∀ index ∈ indices, InGraph c.total index) ∧ ¬ hits c.total indices ⊆ c.seenNodes

instance (c : Coverage) (indices : List Int) : Decidable (c.Announces indices) :=
  inferInstanceAs (Decidable (_ ∧ _))

@[simp]
theorem graph_after (c : Coverage) (indices : List Int) : (c.after indices).graph = c.graph :=
  graph_applyHits c false indices

@[simp]
theorem total_after (c : Coverage) (indices : List Int) : (c.after indices).total = c.total :=
  total_applyHits c false indices

theorem seenNodes_after (c : Coverage) (indices : List Int) :
    (c.after indices).seenNodes = c.seenNodes ∪ hits c.total indices :=
  seenNodes_applyHits c false indices

theorem WellFormed.after {c : Coverage} (h : c.WellFormed) (indices : List Int) :
    (c.after indices).WellFormed :=
  h.applyHits false indices

/-- A batch is announced when it is answered with news. -/
theorem answer_eq_ok_true_iff (c : Coverage) (indices : List Int) :
    (c.applyHits false indices).2 = .ok true ↔ c.Announces indices := by
  rw [answer_applyHits]
  unfold Announces
  cases hout : firstOutside? c.total indices with
  | none =>
    rw [and_iff_right (firstOutside?_eq_none_iff.mp hout)]
    simp
  | some index =>
    refine iff_of_false (by simp) fun h => ?_
    rw [firstOutside?_eq_none_iff.mpr h.1] at hout
    exact absurd hout (by simp)

end Coverage

namespace Tracker

variable {t : Tracker} {c : Coverage}

/-- Whatever the observer replies, it has been told and the coverage stays. -/
theorem state_notify (t : Tracker) (p : Progress) :
    (t.notify p).state = { t with notified := p :: t.notified } := by
  unfold notify
  cases t.observer.reply t.notified p <;> rfl

/-- **What a batch changes**: the coverage takes its hits, and the observer is told of the counts
after it when it is announced. -/
theorem state_reportHits (h : t.state = .tracking c) (indices : List Int) :
    (t.reportHits indices).state =
      { t with
        state := .tracking (c.after indices)
        notified :=
          if c.Announces indices then (c.after indices).progress :: t.notified
          else t.notified } := by
  have hannounce := c.answer_eq_ok_true_iff indices
  unfold reportHits Coverage.after
  simp only [h]
  rcases happly : c.applyHits false indices with ⟨d, e | _ | _⟩
  all_goals
    rw [happly] at hannounce
    simp only
  · rw [if_neg fun ha => by simpa using hannounce.mpr ha]
  · rw [if_neg fun ha => by simpa using hannounce.mpr ha]
  · rw [if_pos (hannounce.mp rfl), state_notify]

theorem reportHits_uninitialized (h : t.state = .uninitialized) (indices : List Int) :
    t.reportHits indices = ⟨t, .value (.error .notInitialized), []⟩ := by
  unfold reportHits
  rw [h]

/-- An error is never hidden by a panic: a batch that fails is not announced. -/
theorem answer_eq_error_iff (h : t.state = .tracking c) (indices : List Int) (e : BatchError) :
    (t.reportHits indices).answer = .value (.error e) ↔
      (c.applyHits false indices).2 = .error e := by
  unfold reportHits
  simp only [h]
  rcases c.applyHits false indices with ⟨d, e' | _ | _⟩
  · simp
  · simp
  · simp only [reduceCtorEq, iff_false]
    cases (notify { t with state := .tracking d } d.progress).answer <;> simp [Answer.map]

/-- An observer that never panics leaves the answer to the coverage. -/
theorem answer_reportHits (h : t.state = .tracking c) (ho : t.observer.NeverPanics)
    (indices : List Int) :
    (t.reportHits indices).answer = .value (c.applyHits false indices).2 := by
  unfold reportHits
  simp only [h]
  rcases c.applyHits false indices with ⟨d, e | _ | _⟩
  · rfl
  · rfl
  · simp only [notify]
    cases hreply : t.observer.reply t.notified d.progress with
    | accepted logged => rfl
    | refused reason => rfl
    | panicked message => exact absurd hreply (ho _ _ _)

end Tracker

/-! ## Calls -/

/-- A call of the tracker. -/
inductive Call where
  | register (clientId : Int) (graph : StructureGraph)
  | report (indices : List Int)
  deriving DecidableEq, Repr

namespace Call

/-- A registration by the primary client. -/
def IsPrimary (p : UInt64) : Call → Prop
  | .register clientId _ => clientId = (p.toNat : Int)
  | .report _ => False

/-- The nodes of a graph of `n` nodes that a call gets to. -/
def hits (n : Nat) : Call → Finset Nat
  | .register _ _ => ∅
  | .report indices => NodeCoverage.hits n indices

/-- A batch, not a registration. -/
def isReport : Call → Bool
  | .register _ _ => false
  | .report _ => true

end Call

/-- No call of a run is a registration by the primary client. -/
def NoPrimary (p : UInt64) (calls : List Call) : Prop :=
  ∀ call ∈ calls, ¬ call.IsPrimary p

/-- The nodes of a graph of `n` nodes that some batch of a run gets to. -/
def reported (n : Nat) : List Call → Finset Nat
  | [] => ∅
  | call :: rest => call.hits n ∪ reported n rest

theorem noPrimary_cons {p : UInt64} {call : Call} {rest : List Call} :
    NoPrimary p (call :: rest) ↔ ¬ call.IsPrimary p ∧ NoPrimary p rest :=
  List.forall_mem_cons

theorem noPrimary_append {p : UInt64} {l₁ l₂ : List Call} :
    NoPrimary p (l₁ ++ l₂) ↔ NoPrimary p l₁ ∧ NoPrimary p l₂ :=
  List.forall_mem_append

theorem noPrimary_filter_isReport (p : UInt64) (calls : List Call) :
    NoPrimary p (calls.filter Call.isReport) := by
  intro call hm
  have hreport := (List.mem_filter.mp hm).2
  cases call with
  | register clientId graph => exact absurd hreport Bool.false_ne_true
  | report indices => exact not_false

/-- A node is reported when it occurs in a batch before the first index that names no node. -/
theorem mem_reported {n i : Nat} {calls : List Call} :
    i ∈ reported n calls ↔
      ∃ indices, Call.report indices ∈ calls ∧ (i : Int) ∈ reach n indices := by
  induction calls with
  | nil => simp [reported]
  | cons call rest ih =>
    rw [reported, Finset.mem_union, ih]
    cases call with
    | register clientId graph => simp [Call.hits]
    | report indices => simp [Call.hits, mem_hits, or_and_right, exists_or]

theorem reported_append (n : Nat) (l₁ l₂ : List Call) :
    reported n (l₁ ++ l₂) = reported n l₁ ∪ reported n l₂ := by
  induction l₁ with
  | nil => rw [List.nil_append, reported, Finset.empty_union]
  | cons call rest ih => rw [List.cons_append, reported, ih, reported, Finset.union_assoc]

theorem reported_filter_isReport (n : Nat) :
    ∀ calls : List Call, reported n (calls.filter Call.isReport) = reported n calls
  | [] => rfl
  | .register clientId graph :: rest => by
    rw [List.filter_cons_of_neg (by simp [Call.isReport]), reported_filter_isReport n rest,
      reported, Call.hits, Finset.empty_union]
  | .report indices :: rest => by
    rw [List.filter_cons_of_pos rfl, reported, reported, reported_filter_isReport n rest]

/-- The last registration by the primary client, if there is one. -/
theorem noPrimary_or_last (p : UInt64) : ∀ calls : List Call,
    NoPrimary p calls ∨ ∃ before graph later,
      calls = before ++ .register p.toNat graph :: later ∧ NoPrimary p later
  | [] => Or.inl fun _ hm => absurd hm List.not_mem_nil
  | call :: rest => by
    rcases noPrimary_or_last p rest with hrest | ⟨before, graph, later, rfl, hlater⟩
    · cases call with
      | report indices => exact Or.inl (noPrimary_cons.mpr ⟨not_false, hrest⟩)
      | register clientId graph =>
        by_cases hid : clientId = (p.toNat : Int)
        · exact Or.inr ⟨[], graph, rest, by rw [hid]; rfl, hrest⟩
        · exact Or.inl (noPrimary_cons.mpr ⟨hid, hrest⟩)
    · exact Or.inr ⟨call :: before, graph, later, rfl, hlater⟩

namespace Tracker

/-- A tracker that has been told nothing. -/
def start (p : UInt64) (o : Observer) : Tracker where
  primaryId := p
  observer := o

/-- The tracker after a call. -/
def step (t : Tracker) : Call → Tracker
  | .register clientId graph => (t.register clientId graph).state
  | .report indices => (t.reportHits indices).state

/-- The tracker after a run. -/
def run (t : Tracker) (calls : List Call) : Tracker :=
  calls.foldl step t

variable {t u : Tracker} {g : StructureGraph} {S : Finset Nat}

@[simp]
theorem run_nil (t : Tracker) : t.run [] = t :=
  rfl

@[simp]
theorem run_cons (t : Tracker) (call : Call) (rest : List Call) :
    t.run (call :: rest) = (t.step call).run rest :=
  rfl

theorem run_append (t : Tracker) (l₁ l₂ : List Call) : t.run (l₁ ++ l₂) = (t.run l₁).run l₂ :=
  List.foldl_append

/-! ## What one call does -/

theorem step_register_of_ne {clientId : Int} (h : clientId ≠ (t.primaryId.toNat : Int))
    (graph : StructureGraph) : t.step (.register clientId graph) = t := by
  have hp : isPrimary t.primaryId clientId = false := by
    rw [Bool.eq_false_iff, ne_eq, isPrimary_iff]
    exact h
  simp [step, register, hp]

theorem step_register_primary (t : Tracker) (graph : StructureGraph) :
    t.step (.register t.primaryId.toNat graph) = { t with state := .tracking (.start graph) } := by
  have hp : isPrimary t.primaryId t.primaryId.toNat = true := (isPrimary_iff _ _).mpr rfl
  simp [step, register, hp]

theorem step_report_tracking {c : Coverage} (h : t.state = .tracking c) (indices : List Int) :
    t.step (.report indices) =
      { t with
        state := .tracking (c.after indices)
        notified :=
          if c.Announces indices then (c.after indices).progress :: t.notified
          else t.notified } :=
  state_reportHits h indices

theorem step_report_uninitialized (h : t.state = .uninitialized) (indices : List Int) :
    t.step (.report indices) = t := by
  simp only [step, reportHits_uninitialized h]

/-- A call leaves the primary client and the observer as they are. -/
theorem exists_step_eq (t : Tracker) (call : Call) :
    ∃ state notified, t.step call = { t with state := state, notified := notified } := by
  cases call with
  | register clientId graph =>
    simp only [step, register]
    split
    · exact ⟨.tracking (.start graph), t.notified, rfl⟩
    · exact ⟨t.state, t.notified, rfl⟩
  | report indices =>
    cases h : t.state with
    | uninitialized => exact ⟨t.state, t.notified, step_report_uninitialized h indices⟩
    | tracking c => exact ⟨_, _, step_report_tracking h indices⟩

@[simp]
theorem primaryId_step (t : Tracker) (call : Call) : (t.step call).primaryId = t.primaryId := by
  obtain ⟨state, notified, hstep⟩ := t.exists_step_eq call
  rw [hstep]

@[simp]
theorem observer_step (t : Tracker) (call : Call) : (t.step call).observer = t.observer := by
  obtain ⟨state, notified, hstep⟩ := t.exists_step_eq call
  rw [hstep]

@[simp]
theorem primaryId_run (t : Tracker) (calls : List Call) :
    (t.run calls).primaryId = t.primaryId := by
  induction calls generalizing t with
  | nil => rfl
  | cons call rest ih => rw [run_cons, ih, primaryId_step]

/-! ## The graph and the set of nodes that a tracker knows -/

/-- The tracker tracks the graph `g`, and has seen the nodes `S` of it. -/
def Tracks (t : Tracker) (g : StructureGraph) (S : Finset Nat) : Prop :=
  ∃ c, t.state = .tracking c ∧ c.WellFormed ∧ c.graph = g ∧ c.seenNodes = S

theorem Tracks.state_eq (h : t.Tracks g S) (h' : u.Tracks g S) : t.state = u.state := by
  obtain ⟨c, hc, hwf, hg, hs⟩ := h
  obtain ⟨d, hd, hwf', hg', hs'⟩ := h'
  rw [hc, hd, Coverage.ext_seenNodes hwf hwf' (hg.trans hg'.symm) (hs.trans hs'.symm)]

theorem Tracks.isTracking (h : t.Tracks g S) : t.isTracking = true := by
  obtain ⟨c, hc, -⟩ := h
  simp [Tracker.isTracking, coverage?, TrackerState.coverage?, hc]

theorem Tracks.graph?_eq (h : t.Tracks g S) : t.graph? = some g := by
  obtain ⟨c, hc, -, hg, -⟩ := h
  simp [graph?, coverage?, TrackerState.coverage?, hc, hg]

theorem Tracks.total_eq (h : t.Tracks g S) : t.total = g.size := by
  obtain ⟨c, hc, hwf, rfl, -⟩ := h
  simp [total, coverage?, TrackerState.coverage?, hc, hwf.total_eq]

theorem Tracks.covered_eq (h : t.Tracks g S) : t.covered = S.card := by
  obtain ⟨c, hc, hwf, -, rfl⟩ := h
  simp [covered, coverage?, TrackerState.coverage?, hc, hwf.covered_eq_card]

theorem Tracks.isSeen?_eq (h : t.Tracks g S) (i : Nat) :
    t.isSeen? i = if i < g.size then some (decide (i ∈ S)) else none := by
  obtain ⟨c, hc, hwf, rfl, rfl⟩ := h
  rw [← hwf.total_eq, ← c.isSeen?_eq]
  simp [isSeen?, coverage?, TrackerState.coverage?, hc]

theorem tracks_start (t : Tracker) (g : StructureGraph) :
    (t.step (.register t.primaryId.toNat g)).Tracks g ∅ := by
  rw [step_register_primary]
  exact ⟨.start g, rfl, Coverage.wellFormed_start g, rfl, Coverage.seenNodes_start g⟩

/-- **Between two registrations by the primary client** a call adds the nodes that it gets to. -/
theorem Tracks.step {call : Call} (h : t.Tracks g S) (hcall : ¬ call.IsPrimary t.primaryId) :
    (t.step call).Tracks g (S ∪ call.hits g.size) := by
  cases call with
  | register clientId graph =>
    rw [step_register_of_ne hcall, Call.hits, Finset.union_empty]
    exact h
  | report indices =>
    obtain ⟨c, hc, hwf, rfl, rfl⟩ := h
    rw [step_report_tracking hc]
    refine ⟨c.after indices, rfl, hwf.after indices, c.graph_after indices, ?_⟩
    rw [c.seenNodes_after indices, hwf.total_eq]
    rfl

theorem Tracks.run (h : t.Tracks g S) {calls : List Call} (hno : NoPrimary t.primaryId calls) :
    (t.run calls).Tracks g (S ∪ reported g.size calls) := by
  induction calls generalizing t S with
  | nil => rwa [reported, Finset.union_empty]
  | cons call rest ih =>
    obtain ⟨hcall, hrest⟩ := noPrimary_cons.mp hno
    rw [reported, ← Finset.union_assoc]
    exact ih (h.step hcall) (by rwa [primaryId_step])

/-- Without a graph only a registration by the primary client has an effect. -/
theorem run_uninitialized (h : t.state = .uninitialized) {calls : List Call}
    (hno : NoPrimary t.primaryId calls) : t.run calls = t := by
  induction calls with
  | nil => rfl
  | cons call rest ih =>
    obtain ⟨hcall, hrest⟩ := noPrimary_cons.mp hno
    have hstep : t.step call = t := by
      cases call with
      | register clientId graph => exact step_register_of_ne hcall graph
      | report indices => exact step_report_uninitialized h indices
    rw [run_cons, hstep]
    exact ih hrest

/-- From the last registration by the primary client on, a run starts over. -/
theorem tracks_run_last (t : Tracker) (before : List Call) (g : StructureGraph)
    {later : List Call} (hlater : NoPrimary t.primaryId later) :
    (t.run (before ++ .register t.primaryId.toNat g :: later)).Tracks g
      (reported g.size later) := by
  rw [run_append, run_cons, ← Finset.empty_union (reported g.size later),
    ← primaryId_run t before]
  exact (tracks_start (t.run before) g).run (by rwa [primaryId_step, primaryId_run])

/-- Whatever coverage a new tracker gets to is well formed. -/
theorem wellFormed_run_start {p : UInt64} {o : Observer} {calls : List Call} {c : Coverage}
    (h : ((start p o).run calls).state = .tracking c) : c.WellFormed := by
  rcases noPrimary_or_last p calls with hno | ⟨before, g, later, rfl, hlater⟩
  · rw [run_uninitialized rfl hno] at h
    exact absurd h (by simp [start])
  · obtain ⟨d, hd, hwf, -⟩ := tracks_run_last (start p o) before g hlater
    obtain rfl : d = c := TrackerState.tracking.inj (hd.symm.trans h)
    exact hwf

/-- **The state after a whole run** from a new tracker, whatever the observer does. Without a
registration by the primary client there is no graph. Else the graph is that of the last one, a
node counts as seen iff it occurs in a later batch before the first index that names no node, and
these nodes are counted once each. The run with everything else left out, before another observer,
ends in the same state. -/
theorem run_start (p : UInt64) (o : Observer) (calls : List Call) :
    let t := (start p o).run calls
    (NoPrimary p calls ∧ t.state = .uninitialized ∧ t.covered = 0 ∧ t.total = 0 ∧
      ∀ i, t.isSeen? i = none) ∨
    ∃ before g later, calls = before ++ .register p.toNat g :: later ∧ NoPrimary p later ∧
      t.isTracking = true ∧ t.graph? = some g ∧ t.total = g.size ∧
      (∀ i, g.size ≤ i → t.isSeen? i = none) ∧
      (∀ i, i < g.size → ∃ seen, t.isSeen? i = some seen ∧
        (seen = true ↔ ∃ batch, Call.report batch ∈ later ∧ (i : Int) ∈ reach g.size batch)) ∧
      t.covered =
        Set.ncard {i : Nat | ∃ batch, Call.report batch ∈ later ∧ (i : Int) ∈ reach g.size batch} ∧
      ∀ o', t.state =
        ((start p o').run (.register p.toNat g :: later.filter Call.isReport)).state := by
  intro t
  rcases noPrimary_or_last p calls with hno | ⟨before, g, later, rfl, hlater⟩
  · have ht : t = start p o := run_uninitialized rfl hno
    refine Or.inl ⟨hno, ?_⟩
    rw [ht]
    exact ⟨rfl, rfl, rfl, fun _ => rfl⟩
  · have htracks : t.Tracks g (reported g.size later) :=
      tracks_run_last (start p o) before g hlater
    refine Or.inr ⟨before, g, later, rfl, hlater, htracks.isTracking, htracks.graph?_eq,
      htracks.total_eq, fun i hi => ?_, fun i hi => ?_, ?_, fun o' => ?_⟩
    · rw [htracks.isSeen?_eq, if_neg (Nat.not_lt.mpr hi)]
    · refine ⟨_, by rw [htracks.isSeen?_eq, if_pos hi], ?_⟩
      rw [decide_eq_true_iff]
      exact mem_reported
    · rw [htracks.covered_eq, ← Set.ncard_coe_finset]
      congr 1
      ext i
      exact Finset.mem_coe.trans mem_reported
    · have hother := tracks_run_last (start p o') [] g
        (noPrimary_filter_isReport p later)
      rw [reported_filter_isReport] at hother
      exact htracks.state_eq hother

end Tracker

end NodeCoverage
