import Mathlib.Data.Finset.Card
import Mathlib.Data.Finset.Union
import Mathlib.Data.List.TakeWhile
import NodeCoverage.Coverage

/-!
# Coverage as a set of nodes

`Coverage` is a graph, a bitmap and a counter. Here it is read as the set of the nodes that have
been seen, `Coverage.seenNodes`, and a batch of indices as the set of the nodes that it gets to,
`hits`: those before its first index that names no node.

Results:
* `seenNodes_applyHits`: a batch adds the nodes that it gets to, and no others;
* `covered_applyHits`: the counter grows by the number of those that had not been seen;
* `answer_applyHits`: the first index that names no node is the error, and without one the answer
  is whether a node was new;
* `WellFormed.covered_eq_card`: under the invariant the counter is the size of the set, so that
  `Coverage.ext_seenNodes` recovers the whole coverage from its graph and its set.
-/

namespace NodeCoverage

/-! ## Batches of indices -/

/-- The index names a node of a graph of `n` nodes. -/
def InGraph (n : Nat) (index : Int) : Prop :=
  0 ≤ index ∧ index < n

instance (n : Nat) (index : Int) : Decidable (InGraph n index) :=
  inferInstanceAs (Decidable (_ ∧ _))

/-- The longest prefix of a batch of which every index names a node. -/
def reach (n : Nat) (indices : List Int) : List Int :=
  indices.takeWhile fun index => InGraph n index

/-- The first index of a batch that names no node. -/
def firstOutside? (n : Nat) (indices : List Int) : Option Int :=
  indices.find? fun index => ¬ InGraph n index

/-- The nodes that a batch gets to. -/
def hits (n : Nat) (indices : List Int) : Finset Nat :=
  ((reach n indices).map Int.toNat).toFinset

theorem inGraph_of_mem_reach {n : Nat} {indices : List Int} {index : Int}
    (h : index ∈ reach n indices) : InGraph n index := by
  simpa using List.mem_takeWhile_imp h

theorem mem_hits {n : Nat} {indices : List Int} {i : Nat} :
    i ∈ hits n indices ↔ (i : Int) ∈ reach n indices := by
  unfold hits
  rw [List.mem_toFinset, List.mem_map]
  constructor
  · rintro ⟨index, hm, rfl⟩
    rw [Int.toNat_of_nonneg (inGraph_of_mem_reach hm).1]
    exact hm
  · intro hm
    exact ⟨i, hm, Int.toNat_natCast i⟩

@[simp]
theorem hits_nil (n : Nat) : hits n [] = ∅ :=
  rfl

theorem hits_cons_of_inGraph {n : Nat} {index : Int} (h : InGraph n index) (rest : List Int) :
    hits n (index :: rest) = insert index.toNat (hits n rest) := by
  simp [hits, reach, h]

theorem hits_cons_of_not_inGraph {n : Nat} {index : Int} (h : ¬ InGraph n index)
    (rest : List Int) : hits n (index :: rest) = ∅ := by
  simp [hits, reach, h]

theorem firstOutside?_eq_none_iff {n : Nat} {indices : List Int} :
    firstOutside? n indices = none ↔ ∀ index ∈ indices, InGraph n index := by
  simp [firstOutside?]

theorem outside_of_firstOutside? {n : Nat} {indices : List Int} {index : Int}
    (h : firstOutside? n indices = some index) : index ∈ indices ∧ ¬ InGraph n index := by
  unfold firstOutside? at h
  exact ⟨List.mem_of_find?_eq_some h, by simpa using List.find?_some h⟩

namespace Coverage

/-! ## The set of the nodes seen -/

/-- The nodes seen. -/
def seenNodes (c : Coverage) : Finset Nat :=
  (Finset.range c.total).filter fun i => c.isSeen? i = some true

theorem lt_total_of_isSeen? {c : Coverage} {i : Nat} {b : Bool} (h : c.isSeen? i = some b) :
    i < c.total :=
  (Array.getElem?_eq_some_iff.mp h).1

theorem mem_seenNodes {c : Coverage} {i : Nat} : i ∈ c.seenNodes ↔ c.isSeen? i = some true := by
  unfold seenNodes
  rw [Finset.mem_filter, Finset.mem_range]
  exact ⟨fun h => h.2, fun h => ⟨lt_total_of_isSeen? h, h⟩⟩

theorem lt_total_of_mem {c : Coverage} {i : Nat} (h : i ∈ c.seenNodes) : i < c.total :=
  lt_total_of_isSeen? (mem_seenNodes.mp h)

/-- The bitmap is the set: what is read at an index is whether the node belongs to it. -/
theorem isSeen?_eq (c : Coverage) (i : Nat) :
    c.isSeen? i = if i < c.total then some (decide (i ∈ c.seenNodes)) else none := by
  by_cases hi : i < c.total
  · rw [if_pos hi]
    have hread : c.isSeen? i = some c.seen[i] := Array.getElem?_eq_getElem hi
    rw [hread]
    congr 1
    rw [Bool.eq_iff_iff, decide_eq_true_iff, mem_seenNodes, hread, Option.some.injEq]
  · rw [if_neg hi]
    exact Array.getElem?_eq_none (Nat.le_of_not_lt hi)

@[simp]
theorem seenNodes_start (g : StructureGraph) : (start g).seenNodes = ∅ := by
  ext i
  rw [mem_seenNodes]
  simp [start, isSeen?, Array.getElem?_replicate]

theorem seenNodes_mark (c : Coverage) (slot : Fin c.seen.size) :
    (c.mark slot).seenNodes = insert slot.val c.seenNodes := by
  ext i
  rw [Finset.mem_insert, mem_seenNodes, mem_seenNodes]
  unfold isSeen? mark
  rw [Array.getElem?_set]
  by_cases hi : slot.val = i
  · simp [hi]
  · rw [if_neg hi]
    exact ⟨Or.inr, fun h => h.resolve_left fun e => hi e.symm⟩

/-! ### Slots -/

theorem slot?_eq_some_iff {c : Coverage} {index : Int} {slot : Fin c.seen.size} :
    c.slot? index = some slot ↔ index = (slot.val : Int) := by
  unfold slot?
  split
  · rename_i h
    rw [Option.some.injEq]
    constructor
    · rintro rfl
      exact (Int.toNat_of_nonneg h.1).symm
    · rintro rfl
      exact Fin.ext (Int.toNat_natCast slot.val)
  · rename_i h
    refine iff_of_false (by simp) ?_
    rintro rfl
    exact h ⟨Int.natCast_nonneg _, by rw [Int.toNat_natCast]; exact slot.isLt⟩

theorem slot?_eq_none_iff {c : Coverage} {index : Int} :
    c.slot? index = none ↔ ¬ InGraph c.total index := by
  unfold slot? InGraph total
  split
  · rename_i h
    exact iff_of_false (by simp) (by omega)
  · rename_i h
    exact iff_of_true rfl (by omega)

theorem inGraph_of_slot {c : Coverage} {index : Int} {slot : Fin c.seen.size}
    (h : c.slot? index = some slot) : InGraph c.total index := by
  by_contra hn
  rw [slot?_eq_none_iff.mpr hn] at h
  exact absurd h (by simp)

theorem mem_seenNodes_of_getElem {c : Coverage} {i : Nat} (hi : i < c.seen.size)
    (h : c.seen[i] = true) : i ∈ c.seenNodes := by
  rw [mem_seenNodes, isSeen?, Array.getElem?_eq_getElem hi]
  exact congrArg some h

theorem not_mem_seenNodes_of_getElem {c : Coverage} {i : Nat} (hi : i < c.seen.size)
    (h : ¬ c.seen[i] = true) : i ∉ c.seenNodes := by
  rw [mem_seenNodes, isSeen?, Array.getElem?_eq_getElem hi]
  exact fun e => h (Option.some.inj e)

/-! ## Batches on coverage -/

theorem graph_applyHits (c : Coverage) (fresh : Bool) (indices : List Int) :
    (c.applyHits fresh indices).1.graph = c.graph := by
  fun_induction applyHits c fresh indices with
  | case1 => rfl
  | case2 => rfl
  | case3 c fresh index rest slot hs seen ih => exact ih
  | case4 c fresh index rest slot hs unseen ih => rw [ih, graph_mark]

theorem total_applyHits (c : Coverage) (fresh : Bool) (indices : List Int) :
    (c.applyHits fresh indices).1.total = c.total := by
  fun_induction applyHits c fresh indices with
  | case1 => rfl
  | case2 => rfl
  | case3 c fresh index rest slot hs seen ih => exact ih
  | case4 c fresh index rest slot hs unseen ih => rw [ih, total_mark]

theorem hits_cons_of_slot {c : Coverage} {index : Int} {slot : Fin c.seen.size}
    (h : c.slot? index = some slot) (rest : List Int) :
    hits c.total (index :: rest) = insert slot.val (hits c.total rest) := by
  rw [hits_cons_of_inGraph (inGraph_of_slot h), slot?_eq_some_iff.mp h, Int.toNat_natCast]

/-- **A batch adds the nodes that it gets to**, whatever ends it. -/
theorem seenNodes_applyHits (c : Coverage) (fresh : Bool) (indices : List Int) :
    (c.applyHits fresh indices).1.seenNodes = c.seenNodes ∪ hits c.total indices := by
  fun_induction applyHits c fresh indices with
  | case1 => rw [hits_nil, Finset.union_empty]
  | case2 c fresh index rest hs =>
    rw [hits_cons_of_not_inGraph (slot?_eq_none_iff.mp hs), Finset.union_empty]
  | case3 c fresh index rest slot hs seen ih =>
    have hold : slot.val ∈ c.seenNodes := mem_seenNodes_of_getElem slot.isLt seen
    rw [ih, hits_cons_of_slot hs, Finset.union_insert,
      Finset.insert_eq_of_mem (Finset.mem_union_left _ hold)]
  | case4 c fresh index rest slot hs unseen ih =>
    rw [ih, seenNodes_mark, total_mark, hits_cons_of_slot hs, Finset.insert_union,
      Finset.union_insert]

/-- The counter grows by the number of the nodes that are new. -/
theorem covered_applyHits (c : Coverage) (fresh : Bool) (indices : List Int) :
    (c.applyHits fresh indices).1.covered =
      c.covered + (hits c.total indices \ c.seenNodes).card := by
  fun_induction applyHits c fresh indices with
  | case1 => rw [hits_nil, Finset.empty_sdiff, Finset.card_empty, Nat.add_zero]
  | case2 c fresh index rest hs =>
    rw [hits_cons_of_not_inGraph (slot?_eq_none_iff.mp hs), Finset.empty_sdiff,
      Finset.card_empty, Nat.add_zero]
  | case3 c fresh index rest slot hs seen ih =>
    have hold : slot.val ∈ c.seenNodes := mem_seenNodes_of_getElem slot.isLt seen
    rw [ih, hits_cons_of_slot hs, Finset.insert_sdiff_of_mem _ hold]
  | case4 c fresh index rest slot hs unseen ih =>
    have hnew : slot.val ∉ c.seenNodes := not_mem_seenNodes_of_getElem slot.isLt unseen
    have hsplit : hits c.total (index :: rest) \ c.seenNodes =
        insert slot.val (hits c.total rest \ insert slot.val c.seenNodes) := by
      rw [hits_cons_of_slot hs]
      ext i
      by_cases hi : i = slot.val
      · simp [hi, hnew]
      · simp [hi]
    have hout : slot.val ∉ hits c.total rest \ insert slot.val c.seenNodes := by simp
    rw [ih, seenNodes_mark, total_mark, hsplit, Finset.card_insert_of_notMem hout]
    simp only [mark]
    omega

theorem firstOutside?_cons_of_slot {c : Coverage} {index : Int} {slot : Fin c.seen.size}
    (h : c.slot? index = some slot) (rest : List Int) :
    firstOutside? c.total (index :: rest) = firstOutside? c.total rest := by
  simp [firstOutside?, inGraph_of_slot h]

/-- **The answer to a batch**: its first index that names no node is the error, and without one
it says whether a node was new. -/
theorem answer_applyHits (c : Coverage) (fresh : Bool) (indices : List Int) :
    (c.applyHits fresh indices).2 =
      match firstOutside? c.total indices with
      | some index => .error (.indexOutOfRange index c.total)
      | none => .ok (fresh || decide (¬ hits c.total indices ⊆ c.seenNodes)) := by
  fun_induction applyHits c fresh indices with
  | case1 => simp [firstOutside?]
  | case2 c fresh index rest hs => simp [firstOutside?, slot?_eq_none_iff.mp hs]
  | case3 c fresh index rest slot hs seen ih =>
    have hold : slot.val ∈ c.seenNodes := mem_seenNodes_of_getElem slot.isLt seen
    have hsame : hits c.total (index :: rest) ⊆ c.seenNodes ↔ hits c.total rest ⊆ c.seenNodes := by
      rw [hits_cons_of_slot hs, Finset.insert_subset_iff, and_iff_right hold]
    rw [ih, firstOutside?_cons_of_slot hs]
    simp only [hsame]
  | case4 c fresh index rest slot hs unseen ih =>
    -- the mark makes the rest start fresh, and the marked node alone makes the batch so
    have hnew : ¬ hits c.total (index :: rest) ⊆ c.seenNodes := by
      rw [hits_cons_of_slot hs, Finset.insert_subset_iff]
      exact fun h => not_mem_seenNodes_of_getElem slot.isLt unseen h.1
    rw [ih, total_mark, firstOutside?_cons_of_slot hs, decide_eq_true hnew, Bool.true_or,
      Bool.or_true]

/-! ## The counter under the invariant -/

theorem card_filter_getElem?_true :
    ∀ bits : List Bool,
      ((Finset.range bits.length).filter fun i => bits[i]? = some true).card = bits.count true := by
  intro bits
  induction bits using List.reverseRecOn with
  | nil => rfl
  | append_singleton bits b ih =>
    have hrest : ((Finset.range bits.length).filter fun i => (bits ++ [b])[i]? = some true) =
        (Finset.range bits.length).filter fun i => bits[i]? = some true := by
      refine Finset.filter_congr fun i hi => ?_
      rw [List.getElem?_append_left (Finset.mem_range.mp hi)]
    have hlast : (bits ++ [b])[bits.length]? = some b := List.getElem?_concat_length
    rw [List.length_append, List.length_singleton, Finset.range_add_one, Finset.filter_insert,
      hrest, hlast, List.count_append, ← ih]
    cases b with
    | false => simp
    | true =>
      rw [if_pos rfl, Finset.card_insert_of_notMem (by simp)]
      rfl

/-- Under the invariant the counter is the number of the nodes seen. -/
theorem WellFormed.covered_eq_card {c : Coverage} (h : c.WellFormed) :
    c.covered = c.seenNodes.card := by
  rw [h.covered_eq, ← Array.count_toList, ← card_filter_getElem?_true]
  unfold seenNodes total isSeen?
  simp only [Array.length_toList, Array.getElem?_toList]

theorem WellFormed.total_eq {c : Coverage} (h : c.WellFormed) : c.total = c.graph.size :=
  h.size_seen

/-- **Coverage is its graph and its set**, under the invariant. -/
theorem ext_seenNodes {c d : Coverage} (hc : c.WellFormed) (hd : d.WellFormed)
    (hg : c.graph = d.graph) (hs : c.seenNodes = d.seenNodes) : c = d := by
  have htotal : c.total = d.total := by rw [hc.total_eq, hd.total_eq, hg]
  have hseen : c.seen = d.seen := by
    refine Array.ext_getElem? fun i => ?_
    have hc' := c.isSeen?_eq i
    rw [htotal, hs, ← d.isSeen?_eq i] at hc'
    exact hc'
  have hcovered : c.covered = d.covered := by
    rw [hc.covered_eq_card, hd.covered_eq_card, hs]
  cases c
  cases d
  simp only at hg hseen hcovered
  rw [hg, hseen, hcovered]

end Coverage

end NodeCoverage
