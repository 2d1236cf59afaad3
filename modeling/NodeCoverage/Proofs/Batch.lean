import NodeCoverage.Proofs.Observers

/-!
# Batches, one at a time and put together

What one batch comes to, with any observer and any coverage, and how batches compose: a batch is cut
in two, put in another order, or sent again. All of it rests on two facts about the loop over a
batch. It goes on from where it was (`applyHits_append`), and what it leaves is a function of the
set of nodes that it gets to (`after_eq_of_hits_eq`).

Results:
* `returns_iff`: what a batch comes to is known beforehand, whatever the observer does;
* `reportHits_error`: a batch that fails leaves the tracker of a shorter one that does not, and is
  not announced;
* `tracking_reportHits_append`, `answer_eq_error_append_iff`, `Returns.append`: a batch that is cut;
* `reportHits_retry`: a batch that is sent again changes nothing and is not announced;
* **`batch_outcome`**: the answer to a batch and the state after it, in the three cases;
* **`batch_algebra`**: cutting, reordering and repeating.
-/

namespace NodeCoverage

variable {n : Nat} {a b indices : List Int}

/-! ## Indices -/

theorem not_forall_inGraph : (¬ ∀ index ∈ indices, InGraph n index) ↔
    ∃ index ∈ indices, ¬ InGraph n index := by
  simp only [not_forall, exists_prop]

/-- A batch with an index that names no node is cut at the first of them. -/
theorem exists_eq_append_of_outside (h : ∃ index ∈ indices, ¬ InGraph n index) :
    ∃ before index later, indices = before ++ index :: later ∧
      (∀ i ∈ before, InGraph n i) ∧ ¬ InGraph n index := by
  induction indices with
  | nil =>
    obtain ⟨index, hm, -⟩ := h
    exact absurd hm List.not_mem_nil
  | cons first rest ih =>
    by_cases hfirst : InGraph n first
    · obtain ⟨index, hm, hout⟩ := h
      have hrest : index ∈ rest := by
        refine (List.mem_cons.mp hm).resolve_left ?_
        rintro rfl
        exact hout hfirst
      obtain ⟨before, index, later, rfl, hbefore, hout⟩ := ih ⟨index, hrest, hout⟩
      refine ⟨first :: before, index, later, rfl, ?_, hout⟩
      exact List.forall_mem_cons.mpr ⟨hfirst, hbefore⟩
    · exact ⟨[], first, rest, rfl, fun i hi => absurd hi List.not_mem_nil, hfirst⟩

/-- A batch that stays inside the graph gets to the nodes that it names. -/
theorem mem_hits_of_forall (h : ∀ index ∈ indices, InGraph n index) {i : Nat} :
    i ∈ hits n indices ↔ (i : Int) ∈ indices := by
  rw [mem_hits, Coverage.reach_eq_self h]

theorem hits_eq_of_mem_iff (h : ∀ index ∈ a, InGraph n index)
    (hab : ∀ index, index ∈ a ↔ index ∈ b) : hits n a = hits n b := by
  ext i
  rw [mem_hits_of_forall h, mem_hits_of_forall fun index hm => h index ((hab index).mpr hm), hab]

namespace Coverage

variable {c d : Coverage} {fresh : Bool}

/-! ## The loop over a batch -/

/-- **The loop goes on from where it was**: unless the first part fails, the second is run on what
it leaves. -/
theorem applyHits_append (c : Coverage) (fresh : Bool) (a b : List Int) :
    c.applyHits fresh (a ++ b) =
      match c.applyHits fresh a with
      | (d, .ok fresh') => d.applyHits fresh' b
      | (d, .error e) => (d, .error e) := by
  fun_induction applyHits c fresh a with
  | case1 => rfl
  | case2 c fresh index rest hs => simp only [List.cons_append, applyHits, hs]
  | case3 c fresh index rest slot hs seen ih =>
    simp only [List.cons_append, applyHits, hs, seen, if_true, ih]
  | case4 c fresh index rest slot hs unseen ih =>
    simp only [List.cons_append, applyHits, hs, unseen, if_false, ih, Bool.false_eq_true]

/-- What was new before a batch has no part in what the batch does to the coverage. -/
theorem fst_applyHits (c : Coverage) (fresh : Bool) (indices : List Int) :
    (c.applyHits fresh indices).1 = c.after indices := by
  unfold after
  induction indices generalizing c fresh with
  | nil => rfl
  | cons index rest ih =>
    simp only [applyHits]
    split
    · rfl
    split
    · exact ih c fresh
    · rfl

/-- The answer to a batch that stays inside the graph: whether a node is new, or one was before. -/
theorem snd_applyHits_of_forall (h : ∀ index ∈ indices, InGraph c.total index) :
    (c.applyHits fresh indices).2 = .ok (fresh || decide (c.Announces indices)) := by
  have hout := firstOutside?_eq_none_iff.mpr h
  have hnews : c.Announces indices ↔ ¬ hits c.total indices ⊆ c.seenNodes := and_iff_right h
  rw [answer_applyHits, hout, decide_eq_decide.mpr hnews]

theorem applyHits_of_forall (h : ∀ index ∈ indices, InGraph c.total index) :
    c.applyHits fresh indices = (c.after indices, .ok (fresh || decide (c.Announces indices))) :=
  Prod.ext (c.fst_applyHits fresh indices) (snd_applyHits_of_forall h)

/-- An index that names no node ends the batch, whatever comes after it. -/
theorem applyHits_of_outside (ha : ∀ index ∈ a, InGraph c.total index) {index : Int}
    (hout : ¬ InGraph c.total index) (later : List Int) :
    c.applyHits false (a ++ index :: later) =
      (c.after a, .error (.indexOutOfRange index c.total)) := by
  have hslot : (c.after a).slot? index = none :=
    slot?_eq_none_iff.mpr (by rwa [total_after])
  rw [applyHits_append, applyHits_of_forall ha]
  simp only [applyHits, hslot, total_after]

theorem after_append (h : ∀ index ∈ a, InGraph c.total index) :
    c.after (a ++ b) = (c.after a).after b := by
  rw [after, applyHits_append, applyHits_of_forall h]
  exact fst_applyHits _ _ _

/-- A batch that fails stays as it is with more behind it. -/
theorem applyHits_append_of_outside (h : ∃ index ∈ a, ¬ InGraph c.total index) :
    c.applyHits false (a ++ b) = c.applyHits false a := by
  obtain ⟨before, index, later, rfl, hbefore, hout⟩ := exists_eq_append_of_outside h
  rw [List.append_assoc, List.cons_append, applyHits_of_outside hbefore hout,
    applyHits_of_outside hbefore hout]

/-- Coverage is its graph, its counter and what is read at each index. -/
theorem ext_isSeen? (hg : c.graph = d.graph) (hc : c.covered = d.covered)
    (hs : ∀ i, c.isSeen? i = d.isSeen? i) : c = d := by
  have hseen : c.seen = d.seen := Array.ext_getElem? hs
  cases c
  cases d
  simp only at hg hc hseen
  rw [hg, hc, hseen]

/-- **What a batch leaves** is a function of the nodes that it gets to. -/
theorem after_eq_of_hits_eq (h : hits c.total a = hits c.total b) : c.after a = c.after b := by
  refine ext_isSeen? ?_ ?_ fun i => ?_
  · rw [graph_after, graph_after]
  · unfold after
    rw [covered_applyHits, covered_applyHits, h]
  · rw [isSeen?_eq, isSeen?_eq, total_after, total_after, seenNodes_after, seenNodes_after, h]

/-- A batch of which nothing is new leaves the coverage alone. -/
theorem after_eq_self (h : hits c.total indices ⊆ c.seenNodes) : c.after indices = c := by
  refine ext_isSeen? (c.graph_after indices) ?_ fun i => ?_
  · rw [after, covered_applyHits, Finset.sdiff_eq_empty_iff_subset.mpr h, Finset.card_empty,
      Nat.add_zero]
  · rw [isSeen?_eq, isSeen?_eq, total_after, seenNodes_after, Finset.union_eq_left.mpr h]

theorem hits_subset_after (c : Coverage) (indices : List Int) :
    hits (c.after indices).total indices ⊆ (c.after indices).seenNodes := by
  rw [total_after, seenNodes_after]
  exact Finset.subset_union_right

/-- A batch that is sent again leaves the coverage alone and ends as before, but without news. -/
theorem applyHits_again (c : Coverage) (indices : List Int) :
    (c.after indices).applyHits false indices =
      (c.after indices, (c.applyHits false indices).2.map fun _ => false) := by
  refine Prod.ext ?_ ?_
  · rw [fst_applyHits, after_eq_self (c.hits_subset_after indices)]
  · rw [answer_applyHits, answer_applyHits, decide_eq_false (not_not_intro
      (c.hits_subset_after indices)), total_after]
    cases firstOutside? c.total indices <;> rfl

/-! ## News -/

/-- A batch that stays inside the graph is announced when a node of it has not been seen. -/
theorem announces_iff (h : ∀ index ∈ indices, InGraph c.total index) :
    c.Announces indices ↔ ∃ index ∈ indices, c.isSeen? index.toNat = some false := by
  refine ⟨Announces.exists_isSeen?_eq_false, ?_⟩
  rintro ⟨index, hm, hnew⟩
  refine ⟨h, fun hsub => ?_⟩
  have hnat : ((index.toNat : Nat) : Int) = index := Int.toNat_of_nonneg (h index hm).1
  have hseen := hsub ((mem_hits_of_forall h).mpr (by rwa [hnat]))
  rw [mem_seenNodes, hnew] at hseen
  cases hseen

/-- The elements of a batch that have not been seen, each of them once. -/
def unseen (c : Coverage) (indices : List Int) : List Int :=
  indices.dedup.filter fun index => c.isSeen? index.toNat = some false

/-- The counter grows by the number of the distinct elements that have not been seen. -/
theorem covered_after_of_forall (h : ∀ index ∈ indices, InGraph c.total index) :
    (c.after indices).covered = c.covered + (c.unseen indices).length := by
  have hinj : Set.InjOn Int.toNat {index | index ∈ c.unseen indices} := by
    intro i hi j hj hij
    have hi' := (h i (List.mem_dedup.mp (List.mem_of_mem_filter hi))).1
    have hj' := (h j (List.mem_dedup.mp (List.mem_of_mem_filter hj))).1
    omega
  have hnodup : ((c.unseen indices).map Int.toNat).Nodup :=
    (List.nodup_map_iff_inj_on ((List.nodup_dedup _).filter _)).mpr
      fun i hi j hj hij => hinj hi hj hij
  have hset : hits c.total indices \ c.seenNodes =
      ((c.unseen indices).map Int.toNat).toFinset := by
    ext i
    rw [Finset.mem_sdiff, mem_hits_of_forall h, List.mem_toFinset, List.mem_map]
    constructor
    · rintro ⟨hm, hnew⟩
      refine ⟨i, List.mem_filter.mpr ⟨List.mem_dedup.mpr hm, ?_⟩, Int.toNat_natCast i⟩
      have hlt : i < c.total := by
        have := (h i hm).2
        omega
      rw [Int.toNat_natCast, isSeen?_eq, if_pos hlt, decide_eq_false hnew]
      rfl
    · rintro ⟨index, hm, rfl⟩
      obtain ⟨hindex, hnew⟩ := List.mem_filter.mp hm
      have hindex := List.mem_dedup.mp hindex
      rw [Int.toNat_of_nonneg (h index hindex).1]
      refine ⟨hindex, fun hseen => ?_⟩
      rw [mem_seenNodes] at hseen
      rw [hseen] at hnew
      exact absurd hnew (by decide)
  rw [after, covered_applyHits, hset, List.toFinset_card_of_nodup hnodup, List.length_map]

end Coverage

/-- An answer is passed on unless the observer panics. -/
theorem Reply.pass_cases {α : Type} (answer : α) (reply : Reply) :
    reply.pass answer = .value answer ∨
      ∃ message, reply = .panicked message ∧ reply.pass answer = .panicked message := by
  cases reply with
  | accepted logged => exact Or.inl rfl
  | refused reason => exact Or.inl rfl
  | panicked message => exact Or.inr ⟨message, rfl, rfl⟩

namespace Tracker

variable {t : Tracker} {c : Coverage} {result : Except BatchError Bool}

/-! ## What a batch comes to -/

/-- What a batch comes to. The call answers with it, except that an observer that is told of the
news may panic in place of the answer that there are some. -/
inductive Returns (t : Tracker) (indices : List Int) : Except BatchError Bool → Prop
  | value {result : Except BatchError Bool} : (t.reportHits indices).answer = .value result →
      Returns t indices result
  | panicked {p : Progress} {message : String} :
      (t.reportHits indices).state.notified = p :: t.notified →
      t.observer.reply t.notified p = .panicked message →
      (t.reportHits indices).answer = .panicked message → Returns t indices (.ok true)

/-- A batch leaves the tracker with the coverage that the loop leaves. -/
theorem tracking_reportHits (h : t.state = .tracking c) (indices : List Int) :
    (t.reportHits indices).state.state = .tracking (c.after indices) := by
  rw [state_reportHits h]

theorem notified_of_announces (h : t.state = .tracking c) (ha : c.Announces indices) :
    (t.reportHits indices).state.notified = (c.after indices).progress :: t.notified := by
  rw [state_reportHits h]
  exact if_pos ha

/-- What a batch comes to is what the loop over it comes to. -/
theorem returns_applyHits (h : t.state = .tracking c) (indices : List Int) :
    t.Returns indices (c.applyHits false indices).2 := by
  by_cases ha : c.Announces indices
  · have hanswer := (reportHits_of_announces h ha).1
    rw [(c.answer_eq_ok_true_iff indices).mpr ha]
    rcases Reply.pass_cases (Except.ok true : Except BatchError Bool)
      (t.observer.reply t.notified (c.after indices).progress) with hpass | ⟨message, hreply, hpass⟩
    · exact .value (hanswer.trans hpass)
    · exact .panicked (notified_of_announces h ha) hreply (hanswer.trans hpass)
  · exact .value (reportHits_of_not_announces h ha).1

/-- A batch comes to one thing only. -/
theorem Returns.eq (hr : t.Returns indices result) (h : t.state = .tracking c) :
    (c.applyHits false indices).2 = result := by
  by_cases ha : c.Announces indices
  · have hanswer := (reportHits_of_announces h ha).1
    rw [(c.answer_eq_ok_true_iff indices).mpr ha]
    cases hr with
    | value hvalue =>
      rcases Reply.pass_cases (Except.ok true : Except BatchError Bool)
        (t.observer.reply t.notified (c.after indices).progress) with hpass | ⟨message, -, hpass⟩
      · exact Answer.value.inj ((hanswer.trans hpass).symm.trans hvalue)
      · exact absurd ((hanswer.trans hpass).symm.trans hvalue) nofun
    | panicked _ _ _ => rfl
  · have hanswer := (reportHits_of_not_announces h ha).1
    cases hr with
    | value hvalue => exact Answer.value.inj (hanswer.symm.trans hvalue)
    | panicked _ _ hpanic => exact absurd (hanswer.symm.trans hpanic) nofun

/-- **What a batch comes to** is known beforehand, whatever the observer does. -/
theorem returns_iff (h : t.state = .tracking c) :
    t.Returns indices result ↔ (c.applyHits false indices).2 = result := by
  refine ⟨fun hr => hr.eq h, ?_⟩
  rintro rfl
  exact returns_applyHits h indices

/-- A batch that stays inside the graph does not fail. -/
theorem returns_of_forall (h : t.state = .tracking c)
    (hin : ∀ index ∈ indices, InGraph c.total index) :
    t.Returns indices (.ok (decide (c.Announces indices))) := by
  rw [returns_iff h, Coverage.snd_applyHits_of_forall hin, Bool.false_or]

/-! ## Batches that fail -/

/-- A failing batch is not announced: it leaves what the indices before the first that names no node
leave, and nothing is logged. -/
theorem reportHits_error (h : t.state = .tracking c) (ha : ∀ index ∈ a, InGraph c.total index)
    {index : Int} (hout : ¬ InGraph c.total index) (later : List Int) :
    t.reportHits (a ++ index :: later) =
      ⟨{ t with state := (t.reportHits a).state.state },
        .value (.error (.indexOutOfRange index c.total)), []⟩ := by
  have hloop := Coverage.applyHits_of_outside ha hout later
  rw [state_reportHits h a, reportHits]
  simp only [h, hloop]

theorem reportHits_append_of_outside (h : t.state = .tracking c)
    (ha : ∃ index ∈ a, ¬ InGraph c.total index) : t.reportHits (a ++ b) = t.reportHits a := by
  have hloop := Coverage.applyHits_append_of_outside (b := b) ha
  unfold reportHits
  simp only [h, hloop]

/-- An error is one of the loop, with any observer. -/
theorem exists_error_iff (h : t.state = .tracking c) :
    (∃ index total,
      (t.reportHits indices).answer = .value (.error (.indexOutOfRange index total))) ↔
      ∃ index ∈ indices, ¬ InGraph c.total index := by
  simp only [answer_eq_error_iff h, Coverage.answer_applyHits]
  rw [← not_forall_inGraph, ← firstOutside?_eq_none_iff]
  cases firstOutside? c.total indices <;> simp

theorem answer_eq_notInitialized_iff :
    (t.reportHits indices).answer = .value (.error .notInitialized) ↔ t.state = .uninitialized := by
  cases h : t.state with
  | uninitialized => simp [reportHits_uninitialized h]
  | tracking c =>
    rw [answer_eq_error_iff h, Coverage.answer_applyHits]
    cases firstOutside? c.total indices <;> simp

/-! ## Batches that are sent again -/

/-- A batch that is sent again leaves the tracker as it is, is not announced and logs nothing. Its
answer is that of the first time, but for the news. -/
theorem reportHits_retry (h : t.state = .tracking c) (indices : List Int) :
    let t' := (t.reportHits indices).state
    t'.reportHits indices =
      ⟨t', .value ((c.applyHits false indices).2.map fun _ => false), []⟩ := by
  intro t'
  have hstate : t'.state = .tracking (c.after indices) := tracking_reportHits h indices
  have hself : { t' with state := .tracking (c.after indices) } = t' := by
    rw [← hstate]
  unfold reportHits
  simp only [hstate, c.applyHits_again indices]
  cases (c.applyHits false indices).2 with
  | error e => simp only [Except.map, hself]
  | ok news => simp only [Except.map, hself]

/-! ## The three cases -/

theorem covered_reportHits (h : t.state = .tracking c) (indices : List Int) :
    (t.reportHits indices).state.covered = (c.after indices).covered := by
  rw [state_reportHits h]
  rfl

/-- A batch keeps the graph, the number of its nodes and the primary client. -/
theorem reads_reportHits (t : Tracker) (indices : List Int) :
    (t.reportHits indices).state.graph? = t.graph? ∧
      (t.reportHits indices).state.total = t.total ∧
      (t.reportHits indices).state.primaryId = t.primaryId := by
  cases h : t.state with
  | uninitialized =>
    rw [reportHits_uninitialized h]
    exact ⟨rfl, rfl, rfl⟩
  | tracking c =>
    rw [state_reportHits h]
    simp [graph?, total, coverage?, TrackerState.coverage?, h]

/-- **What one batch does**, in any state and with any observer. Without a graph, and only then, it
fails for the lack of one and changes nothing. If an index of it names no node, and only then, it
fails with the first such index: nothing after that is applied, nobody is told, and the coverage is
that after the indices before it alone, a batch that does not fail. Else it comes to whether an
element had not been seen before, and the count grows by the number of the distinct elements that
had not. The graph, its size and the primary client stay. -/
theorem batch_outcome (t : Tracker) (indices : List Int) :
    let o := t.reportHits indices
    (o.answer = .value (.error .notInitialized) ↔ t.state = .uninitialized) ∧
    (t.state = .uninitialized → o.state = t ∧ o.events = []) ∧
    (∀ c, t.state = .tracking c →
      ((∃ index total, o.answer = .value (.error (.indexOutOfRange index total))) ↔
        ∃ index ∈ indices, ¬ InGraph c.total index) ∧
      ((∃ index ∈ indices, ¬ InGraph c.total index) → ∃ before index later,
        indices = before ++ index :: later ∧ (∀ i ∈ before, InGraph c.total i) ∧
        ¬ InGraph c.total index ∧
        o.answer = .value (.error (.indexOutOfRange index c.total)) ∧
        (∃ news, t.Returns before (.ok news)) ∧
        o.state = { t with state := (t.reportHits before).state.state } ∧ o.events = []) ∧
      ((∀ index ∈ indices, InGraph c.total index) → ∃ news,
        t.Returns indices (.ok news) ∧
        (news = true ↔ ∃ index ∈ indices, c.isSeen? index.toNat = some false) ∧
        o.state.covered = c.covered + (c.unseen indices).length)) ∧
    o.state.graph? = t.graph? ∧ o.state.total = t.total ∧ o.state.primaryId = t.primaryId := by
  intro o
  refine ⟨answer_eq_notInitialized_iff, fun h => ?_, fun c h => ⟨exists_error_iff h, ?_, ?_⟩,
    t.reads_reportHits indices⟩
  · rw [show o = _ from reportHits_uninitialized h indices]
    exact ⟨rfl, rfl⟩
  · intro hout
    obtain ⟨before, index, later, rfl, hbefore, hindex⟩ := exists_eq_append_of_outside hout
    have herror : o = _ := reportHits_error h hbefore hindex later
    have hsucceeds := returns_of_forall h hbefore
    refine ⟨before, index, later, rfl, hbefore, hindex, ?_, ⟨_, hsucceeds⟩, ?_, ?_⟩
    · rw [herror]
    · rw [herror]
    · rw [herror]
  · intro hin
    refine ⟨decide (c.Announces indices), returns_of_forall h hin, ?_, ?_⟩
    · rw [decide_eq_true_iff, Coverage.announces_iff hin]
    · rw [covered_reportHits h, Coverage.covered_after_of_forall hin]

/-! ## Batches that are cut -/

section Cut

variable (h : t.state = .tracking c) (ha : ∀ index ∈ a, InGraph c.total index)
include h ha

/-- The parts of a batch leave what the whole does. -/
theorem tracking_reportHits_append (b : List Int) :
    (t.reportHits (a ++ b)).state.state = ((t.reportHits a).state.reportHits b).state.state := by
  rw [tracking_reportHits h, tracking_reportHits (tracking_reportHits h a),
    Coverage.after_append ha]

/-- The second part fails when the whole does: the first index that names no node is in it. -/
theorem answer_eq_error_append_iff {e : BatchError} :
    (t.reportHits (a ++ b)).answer = .value (.error e) ↔
      ((t.reportHits a).state.reportHits b).answer = .value (.error e) := by
  rw [answer_eq_error_iff h, answer_eq_error_iff (tracking_reportHits h a),
    Coverage.applyHits_append, Coverage.applyHits_of_forall ha]
  simp only [Coverage.answer_applyHits]
  cases firstOutside? (c.after a).total b <;> simp

/-- The whole brings news if one of the parts does. -/
theorem Returns.append {more : Bool} (hb : (t.reportHits a).state.Returns b (.ok more)) :
    t.Returns (a ++ b) (.ok (decide (c.Announces a) || more)) := by
  rw [returns_iff (tracking_reportHits h a), Coverage.answer_applyHits] at hb
  rw [returns_iff h, Coverage.applyHits_append, Coverage.applyHits_of_forall ha]
  simp only [Coverage.answer_applyHits]
  cases hout : firstOutside? (c.after a).total b with
  | some index =>
    rw [hout] at hb
    cases hb
  | none =>
    rw [hout] at hb
    obtain rfl := Except.ok.inj hb
    simp

end Cut

/-! ## Laws -/

/-- What a batch that stays inside the graph does depends on the set of its elements alone. -/
theorem reportHits_eq_of_mem_iff (h : t.state = .tracking c)
    (ha : ∀ index ∈ a, InGraph c.total index) (hab : ∀ index, index ∈ a ↔ index ∈ b) :
    t.reportHits a = t.reportHits b := by
  have hb : ∀ index ∈ b, InGraph c.total index := fun index hm => ha index ((hab index).mpr hm)
  have hhits := hits_eq_of_mem_iff ha hab
  have hnews : c.Announces a ↔ c.Announces b := by
    unfold Coverage.Announces
    rw [hhits, and_iff_right ha, and_iff_right hb]
  have hloop : c.applyHits false a = c.applyHits false b := by
    rw [Coverage.applyHits_of_forall ha, Coverage.applyHits_of_forall hb,
      Coverage.after_eq_of_hits_eq hhits, decide_eq_decide.mpr hnews]
  unfold reportHits
  simp only [h, hloop]

/-- **The laws of batches**, on any graph with any of its nodes seen and with any observer.
*Cutting*: a batch may be cut where it has not failed yet; the two parts leave the coverage of the
whole, the second fails when the whole does and with the same error, and the whole brings news if
one of the parts does. A batch that has failed does not look at what comes after. *Reordering*: a
batch that does not fail does exactly what any batch of the same elements does. *Repeating*: a batch
that is sent again right away changes nothing and tells nobody; it fails as it did before, or else
brings no news. -/
theorem batch_algebra {t : Tracker} {c : Coverage} (h : t.state = .tracking c) (a b : List Int) :
    let t' := (t.reportHits a).state
    ((∀ index ∈ a, InGraph c.total index) →
      (t.reportHits (a ++ b)).state.state = (t'.reportHits b).state.state ∧
      (∀ e, (t.reportHits (a ++ b)).answer = .value (.error e) ↔
        (t'.reportHits b).answer = .value (.error e)) ∧
      ∃ news, t.Returns a (.ok news) ∧
        ∀ more, t'.Returns b (.ok more) → t.Returns (a ++ b) (.ok (news || more))) ∧
    ((∃ index ∈ a, ¬ InGraph c.total index) → t.reportHits (a ++ b) = t.reportHits a) ∧
    ((∀ index ∈ a, InGraph c.total index) →
      ∀ a', a.Perm a' ∨ (∀ index, index ∈ a ↔ index ∈ a') → t.reportHits a = t.reportHits a') ∧
    ((t'.reportHits a).state = t' ∧ (t'.reportHits a).events = [] ∧
      (∀ news, t.Returns a (.ok news) → (t'.reportHits a).answer = .value (.ok false)) ∧
      ∀ e, (t.reportHits a).answer = .value (.error e) →
        (t'.reportHits a).answer = .value (.error e)) := by
  intro t'
  have hretry : t'.reportHits a = _ := reportHits_retry h a
  refine ⟨fun ha => ⟨tracking_reportHits_append h ha b, fun e => answer_eq_error_append_iff h ha, _,
      returns_of_forall h ha, fun more hmore => hmore.append h ha⟩,
    reportHits_append_of_outside h, fun ha a' hsame => ?_, ?_, ?_, fun news hnews => ?_,
    fun e he => ?_⟩
  · refine reportHits_eq_of_mem_iff h ha fun index => ?_
    rcases hsame with hperm | hmem
    · exact hperm.mem_iff
    · exact hmem index
  · rw [hretry]
  · rw [hretry]
  · rw [hretry, hnews.eq h]
    rfl
  · rw [hretry, (answer_eq_error_iff h a e).mp he]
    rfl

/-- A graph of three nodes and a batch that names two of them, one twice: it is cut off from an
index that names none, put in another order without the repetition, and sent again. -/
theorem batch_algebra_three_nodes :
    let t : Tracker :=
      { primaryId := 0, observer := .silent, state := .tracking (.start (.withNodes 3)) }
    let t' := (t.reportHits [2, 0, 2]).state
    (∀ index ∈ [2, 0, 2], InGraph 3 index) ∧
      (t.reportHits [2, 0, 2, 1, 7]).state.state = (t'.reportHits [1, 7]).state.state ∧
      (t.reportHits [2, 0, 2, 1, 7]).answer = .value (.error (.indexOutOfRange 7 3)) ∧
      t.reportHits [2, 0, 2] = t.reportHits [0, 2] ∧
      (t'.reportHits [2, 0, 2]).answer = .value (.ok false) := by
  intro t t'
  have hin : ∀ index ∈ [2, 0, 2], InGraph 3 index := by decide
  obtain ⟨hcut, -, horder, -, -, hagain, -⟩ :=
    batch_algebra (t := t) (c := .start (.withNodes 3)) rfl [2, 0, 2] [1, 7]
  obtain ⟨hstate, herror, -⟩ := hcut hin
  exact ⟨hin, hstate, (herror (.indexOutOfRange 7 3)).mpr rfl,
    horder hin [0, 2] (Or.inr (by grind)), hagain true (.value rfl)⟩

end Tracker

end NodeCoverage
