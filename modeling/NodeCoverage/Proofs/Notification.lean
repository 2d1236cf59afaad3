import NodeCoverage.Proofs.Run

/-!
# What the observer is told

`Tracker.told` is what a run adds to the observer's history, in order. A batch that fails marks
nodes and announces nothing, so the last count that was told may lag behind; `markedByFailures`
are the nodes that it lags by.

Results:
* `told_singleton`: a call tells the observer once when it is a batch that reaches its end and the
  count grows, and else not at all;
* `Tracks.ascending_told`: between two registrations by the primary client the counts told
  ascend, and there are at most as many of them as the graph has nodes;
* `Tracks.seenNodes_of_silent`: a run that tells nothing adds `markedByFailures` and no other node;
* **`notifications`**: the three together, for every run from a new tracker.
-/

namespace NodeCoverage

/-! ## Ascending counts -/

/-- Notifications of strictly increasing counts above `lo` and up to `n`, which is their total. -/
structure Ascending (lo n : Nat) (told : List Progress) : Prop where
  increasing : told.Pairwise fun q r => q.covered < r.covered
  above : ∀ q ∈ told, lo < q.covered
  le_total : ∀ q ∈ told, q.covered ≤ n
  total_eq : ∀ q ∈ told, q.total = n

namespace Ascending

variable {lo lo' n : Nat} {q : Progress} {told : List Progress}

theorem nil (lo n : Nat) : Ascending lo n [] where
  increasing := List.Pairwise.nil
  above _ h := absurd h List.not_mem_nil
  le_total _ h := absurd h List.not_mem_nil
  total_eq _ h := absurd h List.not_mem_nil

theorem mono (h : Ascending lo n told) (hlo : lo' ≤ lo) : Ascending lo' n told where
  increasing := h.increasing
  above q hq := lt_of_le_of_lt hlo (h.above q hq)
  le_total := h.le_total
  total_eq := h.total_eq

theorem cons (h : Ascending q.covered n told) (hlo : lo < q.covered) (hn : q.covered ≤ n)
    (htotal : q.total = n) : Ascending lo n (q :: told) where
  increasing := List.pairwise_cons.mpr ⟨h.above, h.increasing⟩
  above := List.forall_mem_cons.mpr ⟨hlo, fun r hr => lt_trans hlo (h.above r hr)⟩
  le_total := List.forall_mem_cons.mpr ⟨hn, h.le_total⟩
  total_eq := List.forall_mem_cons.mpr ⟨htotal, h.total_eq⟩

theorem tail (h : Ascending lo n (q :: told)) : Ascending q.covered n told where
  increasing := (List.pairwise_cons.mp h.increasing).2
  above := (List.pairwise_cons.mp h.increasing).1
  le_total r hr := h.le_total r (List.mem_cons_of_mem q hr)
  total_eq r hr := h.total_eq r (List.mem_cons_of_mem q hr)

/-- The last count is the largest. -/
theorem le_getLast? (h : Ascending lo n told) {last : Progress} (hlast : told.getLast? = some last)
    {q : Progress} (hq : q ∈ told) : q.covered ≤ last.covered := by
  obtain ⟨front, rfl⟩ := List.getLast?_eq_some_iff.mp hlast
  rcases List.mem_append.mp hq with hq | hq
  · have := (List.pairwise_append.mp h.increasing).2.2 q hq last List.mem_cons_self
    omega
  · rw [List.mem_singleton.mp hq]

/-- There is room for `n - lo` counts. -/
theorem length_le : ∀ {lo : Nat} {told : List Progress}, Ascending lo n told →
    told.length ≤ n - lo
  | _, [], _ => Nat.zero_le _
  | lo, q :: told, h => by
    have habove : lo < q.covered := h.above q List.mem_cons_self
    have hle : q.covered ≤ n := h.le_total q List.mem_cons_self
    have hrest := h.tail.length_le
    rw [List.length_cons]
    omega

end Ascending

namespace Tracker

variable {t u : Tracker} {g : StructureGraph} {S : Finset Nat}

/-! ## The history of the observer -/

/-- What the observer has been told between an earlier and a later tracker, in order. -/
def toldSince (earlier later : Tracker) : List Progress :=
  (later.notified.take (later.notified.length - earlier.notified.length)).reverse

/-- What the observer is told during a run, in order. -/
def told (t : Tracker) (calls : List Call) : List Progress :=
  toldSince t (t.run calls)

theorem toldSince_eq {news : List Progress} (h : u.notified = news.reverse ++ t.notified) :
    toldSince t u = news := by
  unfold toldSince
  rw [h, List.length_append, Nat.add_sub_cancel, List.take_left, List.reverse_reverse]

/-- The history of the observer only grows. -/
theorem exists_notified_step (t : Tracker) (call : Call) :
    ∃ news : List Progress, (t.step call).notified = news.reverse ++ t.notified := by
  cases call with
  | register clientId graph =>
    refine ⟨[], ?_⟩
    simp only [step, register]
    split <;> rfl
  | report indices =>
    cases h : t.state with
    | uninitialized => exact ⟨[], by rw [step_report_uninitialized h]; rfl⟩
    | tracking c =>
      rw [step_report_tracking h]
      by_cases ha : c.Announces indices
      · exact ⟨[(c.after indices).progress], if_pos ha⟩
      · exact ⟨[], if_neg ha⟩

theorem exists_notified_run (t : Tracker) (calls : List Call) :
    ∃ news : List Progress, (t.run calls).notified = news.reverse ++ t.notified := by
  induction calls generalizing t with
  | nil => exact ⟨[], rfl⟩
  | cons call rest ih =>
    obtain ⟨first, hfirst⟩ := t.exists_notified_step call
    obtain ⟨news, hnews⟩ := ih (t.step call)
    exact ⟨first ++ news, by rw [run_cons, hnews, hfirst, List.reverse_append, List.append_assoc]⟩

theorem notified_run (t : Tracker) (calls : List Call) :
    (t.run calls).notified = (t.told calls).reverse ++ t.notified := by
  obtain ⟨news, hnews⟩ := t.exists_notified_run calls
  rw [told, toldSince_eq hnews, hnews]

@[simp]
theorem told_nil (t : Tracker) : t.told [] = [] :=
  toldSince_eq rfl

theorem told_append (t : Tracker) (l₁ l₂ : List Call) :
    t.told (l₁ ++ l₂) = t.told l₁ ++ (t.run l₁).told l₂ := by
  refine toldSince_eq ?_
  rw [run_append, notified_run, notified_run, List.reverse_append, List.append_assoc]

theorem told_cons (t : Tracker) (call : Call) (rest : List Call) :
    t.told (call :: rest) = t.told [call] ++ (t.step call).told rest :=
  t.told_append [call] rest

/-! ## What one call tells -/

/-- The call is a batch that reaches its end: there is a graph, and every index names a node. -/
def Finishes (t : Tracker) : Call → Prop
  | .register _ _ => False
  | .report indices => t.isTracking = true ∧ ∀ index ∈ indices, InGraph t.total index

instance (t : Tracker) : ∀ call, Decidable (t.Finishes call)
  | .register _ _ => inferInstanceAs (Decidable False)
  | .report _ => inferInstanceAs (Decidable (_ ∧ _))

/-- The call is a batch that is answered with an error. -/
def fails (t : Tracker) : Call → Bool
  | .register _ _ => false
  | .report indices =>
    match (t.reportHits indices).answer with
    | .value (.error _) => true
    | _ => false

theorem told_register (t : Tracker) (clientId : Int) (graph : StructureGraph) :
    t.told [.register clientId graph] = [] := by
  refine toldSince_eq ?_
  simp only [run_cons, run_nil, step, register]
  split <;> rfl

theorem told_report_uninitialized (h : t.state = .uninitialized) (indices : List Int) :
    t.told [.report indices] = [] := by
  refine toldSince_eq ?_
  rw [run_cons, step_report_uninitialized h]
  rfl

theorem told_report_tracking {c : Coverage} (h : t.state = .tracking c) (indices : List Int) :
    t.told [.report indices] =
      if c.Announces indices then [(c.after indices).progress] else [] := by
  refine toldSince_eq ?_
  rw [run_cons, step_report_tracking h, run_nil]
  split <;> rfl

/-- The count grows when a node is new. -/
theorem covered_lt_after_iff (c : Coverage) (indices : List Int) :
    c.covered < (c.after indices).covered ↔ ¬ hits c.total indices ⊆ c.seenNodes := by
  unfold Coverage.after
  rw [Coverage.covered_applyHits, Nat.lt_add_right_iff_pos, Finset.card_pos,
    Finset.sdiff_nonempty]

/-- **What one call tells**: the counts after it, when it is a batch that reaches its end and the
count grows. -/
theorem told_singleton (t : Tracker) (call : Call) :
    t.told [call] =
      if t.Finishes call ∧ t.covered < (t.step call).covered then
        [⟨(t.step call).covered, (t.step call).total⟩]
      else [] := by
  cases call with
  | register clientId graph => rw [told_register, if_neg fun h => h.1]
  | report indices =>
    cases h : t.state with
    | uninitialized =>
      have hnone : t.isTracking = false := by
        simp [isTracking, coverage?, TrackerState.coverage?, h]
      rw [told_report_uninitialized h, if_neg fun hf => by simp [Finishes, hnone] at hf]
    | tracking c =>
      have hcovered : (t.step (.report indices)).covered = (c.after indices).covered := by
        rw [step_report_tracking h]
        rfl
      have htotal : (t.step (.report indices)).total = (c.after indices).total := by
        rw [step_report_tracking h]
        rfl
      have hiff : t.Finishes (.report indices) ∧ t.covered < (c.after indices).covered ↔
          c.Announces indices := by
        unfold Coverage.Announces
        rw [← covered_lt_after_iff]
        simp [Finishes, isTracking, total, covered, coverage?, TrackerState.coverage?, h]
      rw [told_report_tracking h]
      simp only [hcovered, htotal, hiff]
      rfl

/-- A batch on a graph fails when an index of it names no node. -/
theorem fails_report_iff {c : Coverage} (h : t.state = .tracking c) (indices : List Int) :
    t.fails (.report indices) = true ↔ ¬ ∀ index ∈ indices, InGraph c.total index := by
  rw [← firstOutside?_eq_none_iff]
  have herror : t.fails (.report indices) = true ↔
      ∃ e, (t.reportHits indices).answer = .value (.error e) := by
    simp only [fails]
    rcases (t.reportHits indices).answer with (e | b) | message <;> simp
  rw [herror]
  simp only [answer_eq_error_iff h, Coverage.answer_applyHits]
  cases firstOutside? c.total indices <;> simp

/-! ## Between two registrations by the primary client -/

theorem Tracks.subset_range (h : t.Tracks g S) : S ⊆ Finset.range g.size := by
  obtain ⟨c, -, hwf, rfl, rfl⟩ := h
  intro i hi
  rw [Finset.mem_range, ← hwf.total_eq]
  exact Coverage.lt_total_of_mem hi

theorem Tracks.card_le (h : t.Tracks g S) : S.card ≤ g.size := by
  have := Finset.card_le_card h.subset_range
  rwa [Finset.card_range] at this

/-- **The three ways of a call** other than a registration by the primary client: it fails, or it
brings nothing new, or it is announced. -/
theorem Tracks.call_cases {call : Call} (h : t.Tracks g S)
    (hcall : ¬ call.IsPrimary t.primaryId) :
    (t.fails call = true ∧ t.told [call] = []) ∨
    (t.fails call = false ∧ call.hits g.size ⊆ S ∧ t.told [call] = []) ∨
    (t.fails call = false ∧ ¬ call.hits g.size ⊆ S ∧
      t.told [call] = [⟨(S ∪ call.hits g.size).card, g.size⟩]) := by
  cases call with
  | register clientId graph =>
    exact Or.inr (Or.inl ⟨rfl, Finset.empty_subset S, told_register t clientId graph⟩)
  | report indices =>
    have hafter := h.step hcall
    obtain ⟨c, hc, hwf, rfl, rfl⟩ := h
    rw [told_report_tracking hc, Call.hits, ← hwf.total_eq]
    by_cases hin : ∀ index ∈ indices, InGraph c.total index
    · have hok : t.fails (.report indices) = false := by
        rw [Bool.eq_false_iff, ne_eq, fails_report_iff hc, not_not]
        exact hin
      by_cases hsub : hits c.total indices ⊆ c.seenNodes
      · exact Or.inr (Or.inl ⟨hok, hsub, if_neg fun ha => ha.2 hsub⟩)
      · refine Or.inr (Or.inr ⟨hok, hsub, ?_⟩)
        have hcount : (c.after indices).covered = (c.seenNodes ∪ hits c.total indices).card := by
          rw [(hwf.after indices).covered_eq_card, c.seenNodes_after]
        rw [if_pos ⟨hin, hsub⟩, Coverage.progress, hcount, c.total_after]
    · exact Or.inl ⟨(fails_report_iff hc indices).mpr hin, if_neg fun ha => hin ha.1⟩

/-- **The counts ascend**: each is above the count at the start, and above the one before it. -/
theorem Tracks.ascending_told {calls : List Call} (h : t.Tracks g S)
    (hno : NoPrimary t.primaryId calls) : Ascending S.card g.size (t.told calls) := by
  induction calls generalizing t S with
  | nil =>
    rw [told_nil]
    exact Ascending.nil _ _
  | cons call rest ih =>
    obtain ⟨hcall, hrest⟩ := noPrimary_cons.mp hno
    have hstep := h.step hcall
    have htold := ih hstep (by rwa [primaryId_step])
    have hmono : Ascending S.card g.size ((t.step call).told rest) :=
      htold.mono (Finset.card_le_card Finset.subset_union_left)
    rw [told_cons]
    rcases h.call_cases hcall with ⟨-, hnone⟩ | ⟨-, -, hnone⟩ | ⟨-, hnew, hone⟩
    · rwa [hnone]
    · rwa [hnone]
    · rw [hone]
      refine htold.cons ?_ hstep.card_le rfl
      refine Finset.card_lt_card (Finset.ssubset_iff_subset_ne.mpr
        ⟨Finset.subset_union_left, fun he => hnew ?_⟩)
      exact Finset.union_eq_left.mp he.symm

/-! ## The lag -/

/-- The nodes that have been seen. -/
def seenNodes (t : Tracker) : Finset Nat :=
  (Finset.range t.total).filter fun i => t.isSeen? i = some true

/-- The nodes that the failing batches of a run mark for the first time. -/
def markedByFailures (t : Tracker) : List Call → Finset Nat
  | [] => ∅
  | call :: rest =>
    (if t.fails call = true then (t.step call).seenNodes \ t.seenNodes else ∅) ∪
      (t.step call).markedByFailures rest

/-- No batch of a run fails. -/
def NoneFails (t : Tracker) : List Call → Prop
  | [] => True
  | call :: rest => t.fails call = false ∧ (t.step call).NoneFails rest

theorem Tracks.seenNodes_eq (h : t.Tracks g S) : t.seenNodes = S := by
  ext i
  have hsub := @h.subset_range
  unfold seenNodes
  rw [Finset.mem_filter, Finset.mem_range, h.total_eq, h.isSeen?_eq]
  constructor
  · rintro ⟨hi, he⟩
    rw [if_pos hi, Option.some.injEq, decide_eq_true_iff] at he
    exact he
  · intro hm
    have hi : i < g.size := Finset.mem_range.mp (hsub hm)
    rw [if_pos hi, Option.some.injEq, decide_eq_true_iff]
    exact ⟨hi, hm⟩

theorem markedByFailures_of_noneFails :
    ∀ {t : Tracker} {calls : List Call}, t.NoneFails calls → t.markedByFailures calls = ∅
  | _, [], _ => rfl
  | t, call :: rest, h => by
    rw [markedByFailures, if_neg (by rw [h.1]; exact Bool.false_ne_true),
      markedByFailures_of_noneFails h.2, Finset.empty_union]

/-- **A silent run adds the nodes of its failing batches**, and these had not been seen. -/
theorem Tracks.seenNodes_of_silent {calls : List Call} (h : t.Tracks g S)
    (hno : NoPrimary t.primaryId calls) (hsilent : t.told calls = []) :
    S ∪ reported g.size calls = S ∪ t.markedByFailures calls ∧
      Disjoint S (t.markedByFailures calls) := by
  induction calls generalizing t S with
  | nil => exact ⟨rfl, Finset.disjoint_empty_right S⟩
  | cons call rest ih =>
    obtain ⟨hcall, hrest⟩ := noPrimary_cons.mp hno
    rw [told_cons, List.append_eq_nil_iff] at hsilent
    have hstep := h.step hcall
    obtain ⟨hunion, hdisj⟩ := ih hstep (by rwa [primaryId_step]) hsilent.2
    rw [reported, markedByFailures, hstep.seenNodes_eq, h.seenNodes_eq, ← Finset.union_assoc,
      hunion]
    rcases h.call_cases hcall with ⟨hfail, -⟩ | ⟨hok, hsub, -⟩ | ⟨-, -, hone⟩
    · rw [if_pos hfail]
      refine ⟨?_, ?_⟩
      · rw [← Finset.union_assoc, Finset.union_sdiff_self_eq_union, ← Finset.union_assoc,
          Finset.union_self]
      · exact Finset.disjoint_union_right.mpr
          ⟨Finset.disjoint_sdiff, hdisj.mono_left Finset.subset_union_left⟩
    · rw [if_neg (by rw [hok]; exact Bool.false_ne_true), Finset.empty_union]
      rw [Finset.union_eq_left.mpr hsub] at hdisj ⊢
      exact ⟨rfl, hdisj⟩
    · rw [hone] at hsilent
      exact absurd hsilent.1 (List.cons_ne_nil _ _)

theorem Tracks.covered_of_silent {calls : List Call} (h : t.Tracks g S)
    (hno : NoPrimary t.primaryId calls) (hsilent : t.told calls = []) :
    (t.run calls).covered = t.covered + (t.markedByFailures calls).card := by
  obtain ⟨hunion, hdisj⟩ := h.seenNodes_of_silent hno hsilent
  rw [(h.run hno).covered_eq, hunion, Finset.card_union_of_disjoint hdisj, h.covered_eq]

/-- The last count of some notifications, zero if there is none. -/
def lastCount (told : List Progress) : Nat :=
  told.getLast?.elim 0 fun q => q.covered

/-- The run ends with a call that tells the observer something. -/
def EndsTelling (t : Tracker) (calls : List Call) : Prop :=
  ∃ earlier call, calls = earlier ++ [call] ∧ (t.run earlier).told [call] ≠ []

/-- Every run splits behind the last call that tells something. -/
theorem exists_split_last_told (t : Tracker) (calls : List Call) :
    ∃ early late, calls = early ++ late ∧ (early = [] ∨ t.EndsTelling early) ∧
      (t.run early).told late = [] := by
  induction calls using List.reverseRecOn with
  | nil => exact ⟨[], [], rfl, Or.inl rfl, told_nil t⟩
  | append_singleton calls call ih =>
    by_cases hcall : (t.run calls).told [call] = []
    · obtain ⟨early, late, rfl, hearly, hlate⟩ := ih
      refine ⟨early, late ++ [call], (List.append_assoc _ _ _), hearly, ?_⟩
      rw [told_append, hlate, ← run_append, hcall, List.append_nil]
    · exact ⟨calls ++ [call], [], (List.append_nil _).symm, Or.inr ⟨calls, call, rfl, hcall⟩,
        told_nil _⟩

/-- At a call that tells something the last notification holds the counts as they are. -/
theorem getLast?_told_of_endsTelling {calls : List Call} (h : t.EndsTelling calls) :
    (t.told calls).getLast? = some ⟨(t.run calls).covered, (t.run calls).total⟩ := by
  obtain ⟨earlier, call, rfl, hne⟩ := h
  rw [told_singleton] at hne
  have htold : (t.run earlier).told [call] =
      [⟨((t.run earlier).step call).covered, ((t.run earlier).step call).total⟩] := by
    rw [told_singleton]
    exact if_pos (by by_contra hn; exact hne (if_neg hn))
  rw [told_append, htold, List.getLast?_concat, run_append]
  rfl

/-- The count is the last one told and, beyond it, what failing batches have marked since. -/
theorem Tracks.covered_run_split {early late : List Call} (h : t.Tracks g ∅)
    (hno : NoPrimary t.primaryId (early ++ late)) (hearly : early = [] ∨ t.EndsTelling early)
    (hlate : (t.run early).told late = []) :
    (t.run (early ++ late)).covered =
      lastCount (t.told early) + ((t.run early).markedByFailures late).card := by
  obtain ⟨hno₁, hno₂⟩ := noPrimary_append.mp hno
  have hlast : lastCount (t.told early) = (t.run early).covered := by
    rcases hearly with rfl | htelling
    · rw [told_nil, run_nil, h.covered_eq]
      rfl
    · rw [lastCount, getLast?_told_of_endsTelling htelling]
      rfl
  rw [run_append, (h.run hno₁).covered_of_silent (by rwa [primaryId_run]) hlate, hlast]

/-- No batch fails that names nodes only. -/
theorem Tracks.noneFails {calls : List Call} (h : t.Tracks g S)
    (hno : NoPrimary t.primaryId calls)
    (hin : ∀ indices, Call.report indices ∈ calls → ∀ index ∈ indices, InGraph g.size index) :
    t.NoneFails calls := by
  induction calls generalizing t S with
  | nil => exact trivial
  | cons call rest ih =>
    obtain ⟨hcall, hrest⟩ := noPrimary_cons.mp hno
    refine ⟨?_, ih (h.step hcall) (by rwa [primaryId_step])
      fun indices hm => hin indices (List.mem_cons_of_mem call hm)⟩
    cases call with
    | register clientId graph => rfl
    | report indices =>
      obtain ⟨c, hc, hwf, rfl, -⟩ := h
      rw [Bool.eq_false_iff, ne_eq, fails_report_iff hc, not_not, hwf.total_eq]
      exact hin indices List.mem_cons_self

/-- **The last notification is up to date** when no batch fails and a node is new. -/
theorem Tracks.getLast?_told {calls : List Call} (h : t.Tracks g S)
    (hno : NoPrimary t.primaryId calls)
    (hin : ∀ indices, Call.report indices ∈ calls → ∀ index ∈ indices, InGraph g.size index)
    (hnew : ¬ reported g.size calls ⊆ S) :
    (t.told calls).getLast? = some ⟨(S ∪ reported g.size calls).card, g.size⟩ := by
  obtain ⟨early, late, rfl, hearly, hlate⟩ := t.exists_split_last_told calls
  obtain ⟨hno₁, hno₂⟩ := noPrimary_append.mp hno
  have hmid := h.run hno₁
  have hno₂' : NoPrimary (t.run early).primaryId late := by rwa [primaryId_run]
  have hnone : (t.run early).NoneFails late :=
    hmid.noneFails hno₂' fun indices hm => hin indices (List.mem_append_right early hm)
  -- what is silent and does not fail brings nothing
  have hsame : (S ∪ reported g.size early) ∪ reported g.size late = S ∪ reported g.size early := by
    rw [(hmid.seenNodes_of_silent hno₂' hlate).1, markedByFailures_of_noneFails hnone,
      Finset.union_empty]
  rw [reported_append, ← Finset.union_assoc, hsame, told_append, hlate, List.append_nil]
  rcases hearly with rfl | htelling
  · refine absurd ?_ hnew
    rw [reported, Finset.union_empty] at hsame
    rw [List.nil_append]
    exact Finset.union_eq_left.mp hsame
  · rw [getLast?_told_of_endsTelling htelling, hmid.covered_eq, hmid.total_eq]

/-- **The observer's history over a whole run** from a new tracker. First, a call tells the
observer exactly once, namely the counts after it, when it is a batch that reaches its end and the
count grows, and not at all otherwise. Second, after a registration by the primary client the
counts told are strictly increasing between one and the number of nodes, which is their total, and
there are at most that many. Third, split what follows the last such registration behind the last
call that told something: the count is the last one told, zero if there is none, and the number of
the nodes that batches failing after it have marked for the first time. -/
theorem notifications (p : UInt64) (o : Observer) (calls : List Call) :
    let t := (start p o).run calls
    (∀ call, t.told [call] =
      if t.Finishes call ∧ t.covered < (t.step call).covered then
        [⟨(t.step call).covered, (t.step call).total⟩]
      else []) ∧
    (∀ before g later, calls = before ++ .register p.toNat g :: later → NoPrimary p later →
      let told := ((start p o).run (before ++ [.register p.toNat g])).told later
      told.Pairwise (fun q r => q.covered < r.covered) ∧
      (∀ q ∈ told, 1 ≤ q.covered ∧ q.covered ≤ g.size ∧ q.total = g.size) ∧
      told.length ≤ g.size) ∧
    (t.isTracking = true → ∃ before g early late,
      calls = before ++ .register p.toNat g :: (early ++ late) ∧ NoPrimary p (early ++ late) ∧
      let u := (start p o).run (before ++ [.register p.toNat g])
      (early = [] ∨ u.EndsTelling early) ∧ (u.run early).told late = [] ∧
      t.covered = lastCount (u.told early) + ((u.run early).markedByFailures late).card ∧
      ((u.run early).NoneFails late → t.covered = lastCount (u.told early))) := by
  intro t
  have hbase : ∀ before g, ((start p o).run (before ++ [.register p.toNat g])).Tracks g ∅ :=
    fun before g => tracks_run_last (start p o) before g fun _ hm => absurd hm List.not_mem_nil
  have hid : ∀ before, ((start p o).run before).primaryId = p := primaryId_run (start p o)
  refine ⟨t.told_singleton, ?_, fun htracking => ?_⟩
  · intro before g later _ hlater told
    have hasc : Ascending 0 g.size told := (hbase before g).ascending_told (by rwa [hid])
    exact ⟨hasc.increasing,
      fun q hq => ⟨hasc.above q hq, hasc.le_total q hq, hasc.total_eq q hq⟩, hasc.length_le⟩
  · rcases noPrimary_or_last p calls with hno | ⟨before, g, later, hcalls, hlater⟩
    · have ht : t = start p o := run_uninitialized rfl hno
      rw [ht] at htracking
      exact absurd htracking Bool.false_ne_true
    · obtain ⟨early, late, rfl, hearly, hlate⟩ :=
        ((start p o).run (before ++ [.register p.toNat g])).exists_split_last_told later
      refine ⟨before, g, early, late, hcalls, hlater, ?_⟩
      intro u
      have hrun : t = u.run (early ++ late) := by
        rw [← run_append, List.append_assoc, List.singleton_append, ← hcalls]
      have hcovered : t.covered =
          lastCount (u.told early) + ((u.run early).markedByFailures late).card := by
        rw [hrun]
        exact (hbase before g).covered_run_split (by rwa [hid]) hearly hlate
      refine ⟨hearly, hlate, hcovered, fun hnone => ?_⟩
      rw [hcovered, markedByFailures_of_noneFails hnone, Finset.card_empty, Nat.add_zero]

end Tracker

end NodeCoverage
