import NodeCoverage.Int128
import NodeCoverage.Proofs.Batch

/-!
# Coverage in machine words

`Coverage` counts in natural numbers and looks up bits at slots that are known to be there. A
machine has neither: its counter is a word that wraps, its bitmap is read at a word, which faults
past the end, and an index of 128 bits is first made a word, if it is one. `WordCoverage` keeps
coverage that way. As long as the size of every registered graph is a word, none of this shows.

Results:
* `WordCoverage.slot_eq_ok_iff`: the slot of an index is the index as an integer;
* `Coverage.WellFormed.covered_lt_total`: where a node is left to be seen, the counter is not full;
* `WordCoverage.Fits.applyHits`: a batch in words does what it does in numbers, one lemma per mark
  and then by induction on the batch;
* `WordTracker.Matches.run`: a run in words does not fault, and knows what the tracker knows;
* **`marks_stay_exact`**: in whatever state a run gets to, also in the middle of a batch, slots are
  those of their indices, accesses stay inside, and the counter does not wrap.
-/

namespace NodeCoverage

/-! ## Words -/

/-- The index as a word, if it is one. -/
def Int128.word? (index : Int128) : Option UInt64 :=
  if 0 ≤ index.val ∧ index.val < UInt64.size then some (.ofNat index.val.toNat) else none

theorem Int128.word?_eq_some_iff {index : Int128} {k : UInt64} :
    index.word? = some k ↔ (k.toNat : Int) = index.val := by
  unfold word?
  split
  · next h =>
    have hnat : index.val.toNat < UInt64.size := by omega
    rw [Option.some.injEq]
    constructor
    · rintro rfl
      rw [UInt64.toNat_ofNat_of_lt' hnat]
      exact Int.toNat_of_nonneg h.1
    · intro hk
      refine UInt64.toNat_inj.mp ?_
      rw [UInt64.toNat_ofNat_of_lt' hnat]
      omega
  · next h =>
    have hk := k.toNat_lt_size
    exact iff_of_false nofun (by omega)

/-- The integers of some indices. -/
def values (indices : List Int128) : List Int :=
  indices.map Int128.val

theorem values_cons (index : Int128) (rest : List Int128) :
    values (index :: rest) = index.val :: values rest :=
  rfl

/-! ## Coverage -/

/-- An access past the end of a bitmap. -/
structure Fault where
  slot : UInt64
  size : Nat
  deriving DecidableEq, Repr

/-- Coverage as a machine keeps it. -/
structure WordCoverage where
  graph : StructureGraph
  seen : Array Bool
  covered : UInt64
  deriving DecidableEq, Repr

namespace WordCoverage

/-- Nothing seen yet. -/
def start (graph : StructureGraph) : WordCoverage where
  graph := graph
  seen := Array.replicate graph.size false
  covered := 0

/-- The slot that an index names: the index as a word, if that lies in the bitmap. -/
def slot (c : WordCoverage) (index : Int128) : Except BatchError UInt64 :=
  match index.word?.filter (·.toNat < c.seen.size) with
  | some k => .ok k
  | none => .error (.indexOutOfRange index.val c.seen.size)

/-- Marks a slot and counts it, unless it was marked before. The answer is whether it was new. -/
def mark (c : WordCoverage) (k : UInt64) : Except Fault (WordCoverage × Bool) :=
  match c.seen[k.toNat]? with
  | none => .error ⟨k, c.seen.size⟩
  | some true => .ok (c, false)
  | some false =>
    .ok ({ c with seen := c.seen.setIfInBounds k.toNat true, covered := c.covered + 1 }, true)

/-- Marks the nodes of a batch in order, up to the first index that names none. -/
def applyHits (c : WordCoverage) (fresh : Bool) :
    List Int128 → Except Fault (WordCoverage × Except BatchError Bool)
  | [] => .ok (c, .ok fresh)
  | index :: rest =>
    match c.slot index with
    | .error e => .ok (c, .error e)
    | .ok k =>
      match c.mark k with
      | .error fault => .error fault
      | .ok (d, new) => d.applyHits (fresh || new) rest

/-- What the words stand for. -/
def exact (c : WordCoverage) : Coverage where
  graph := c.graph
  seen := c.seen
  covered := c.covered.toNat

/-- What makes the unchecked operations on some coverage safe. -/
structure Safe (c : WordCoverage) : Prop where
  /-- The slot of an index is the index as an integer, and lies in the bitmap. -/
  slot_eq_ok_iff : ∀ index k,
    c.slot index = .ok k ↔ (k.toNat : Int) = index.val ∧ k.toNat < c.seen.size
  /-- An index is refused when it names no node, and only then. -/
  slot_eq_error_iff : ∀ index e, c.slot index = .error e ↔
    ¬ InGraph c.seen.size index.val ∧ e = .indexOutOfRange index.val c.seen.size
  /-- A slot can be looked up and marked. -/
  exists_mark : ∀ index k, c.slot index = .ok k → ∃ d new, c.mark k = .ok (d, new)
  /-- Where a mark is new the counter is below the number of nodes, and counts one more. -/
  covered_mark : ∀ k d, c.mark k = .ok (d, true) →
    c.covered.toNat < c.seen.size ∧ d.covered.toNat = c.covered.toNat + 1

end WordCoverage

/-! ## Slots and marks -/

/-- **Where a node is left to be seen** the counter is not full. -/
theorem Coverage.WellFormed.covered_lt_total {c : Coverage} (h : c.WellFormed) {i : Nat}
    (hi : c.isSeen? i = some false) : c.covered < c.total := by
  have hnew : i ∉ c.seenNodes := by
    rw [mem_seenNodes, hi]
    nofun
  have hsub : insert i c.seenNodes ⊆ Finset.range c.total := by
    intro j hj
    rw [Finset.mem_range]
    rcases Finset.mem_insert.mp hj with rfl | hj
    · exact lt_total_of_isSeen? hi
    · exact lt_total_of_mem hj
  have hcard := Finset.card_le_card hsub
  rw [Finset.card_insert_of_notMem hnew, Finset.card_range, ← h.covered_eq_card] at hcard
  exact hcard

/-- A node that was seen changes nothing. -/
theorem Coverage.applyHits_of_seen {c : Coverage} {index : Int} {k : Nat} {fresh : Bool}
    {rest : List Int} (hk : k < c.seen.size) (hslot : c.slot? index = some ⟨k, hk⟩)
    (hseen : c.seen[k] = true) :
    c.applyHits fresh (index :: rest) = c.applyHits fresh rest := by
  simp only [applyHits, hslot, Fin.getElem_fin, hseen, if_true]

/-- A node that was not seen is marked. -/
theorem Coverage.applyHits_of_unseen {c : Coverage} {index : Int} {k : Nat} {fresh : Bool}
    {rest : List Int} (hk : k < c.seen.size) (hslot : c.slot? index = some ⟨k, hk⟩)
    (hunseen : c.seen[k] = false) :
    c.applyHits fresh (index :: rest) = (c.mark ⟨k, hk⟩).applyHits true rest := by
  simp only [applyHits, hslot, Fin.getElem_fin, hunseen, Bool.false_eq_true, if_false]

namespace WordCoverage

variable {c d : WordCoverage} {index : Int128} {k : UInt64}

theorem slot_eq_ok_iff :
    c.slot index = .ok k ↔ (k.toNat : Int) = index.val ∧ k.toNat < c.seen.size := by
  have hfilter : index.word?.filter (·.toNat < c.seen.size) = some k ↔
      (k.toNat : Int) = index.val ∧ k.toNat < c.seen.size := by
    rw [Option.filter_eq_some_iff, Int128.word?_eq_some_iff, decide_eq_true_iff]
  rw [← hfilter]
  unfold slot
  split
  · next h => rw [h, Except.ok.injEq, Option.some.injEq]
  · next h => rw [h]; exact iff_of_false nofun nofun

/-- An index that names a node has a slot, as long as the size of the bitmap is a word. -/
theorem exists_slot (hsize : c.seen.size < UInt64.size) (hin : InGraph c.seen.size index.val) :
    ∃ k, c.slot index = .ok k := by
  obtain ⟨hnonneg, hlt⟩ := hin
  have hword : (UInt64.ofNat index.val.toNat).toNat = index.val.toNat :=
    UInt64.toNat_ofNat_of_lt' (by omega)
  exact ⟨.ofNat index.val.toNat, slot_eq_ok_iff.mpr ⟨by omega, by omega⟩⟩

theorem eq_of_slot_eq_error {e : BatchError} (h : c.slot index = .error e) :
    e = .indexOutOfRange index.val c.seen.size := by
  unfold slot at h
  split at h <;> cases h
  rfl

theorem slot_eq_error_iff (hsize : c.seen.size < UInt64.size) {e : BatchError} :
    c.slot index = .error e ↔
      ¬ InGraph c.seen.size index.val ∧ e = .indexOutOfRange index.val c.seen.size := by
  constructor
  · intro herror
    refine ⟨fun hin => ?_, eq_of_slot_eq_error herror⟩
    obtain ⟨k, hk⟩ := exists_slot hsize hin
    cases hk.symm.trans herror
  · rintro ⟨hout, rfl⟩
    cases hslot : c.slot index with
    | ok k =>
      obtain ⟨hk, hlt⟩ := slot_eq_ok_iff.mp hslot
      exact absurd ⟨by omega, by omega⟩ hout
    | error e => rw [eq_of_slot_eq_error hslot]

/-! ## Words and numbers -/

/-- The words stand for sound coverage, and a word can count the nodes. -/
structure Fits (c : WordCoverage) : Prop where
  wellFormed : c.exact.WellFormed
  size_lt : c.seen.size < UInt64.size

theorem fits_start {g : StructureGraph} (h : g.size < UInt64.size) : (start g).Fits where
  wellFormed := Coverage.wellFormed_start g
  size_lt := by simpa [start] using h

/-- **A mark in words**: a slot that was marked stays, and any other is marked and counted, without
an overflow. -/
theorem Fits.mark (h : c.Fits) (hk : k.toNat < c.seen.size) :
    (c.seen[k.toNat] = true ∧ c.mark k = .ok (c, false)) ∨
    (c.seen[k.toNat] = false ∧ c.covered.toNat < c.seen.size ∧
      ∃ d, c.mark k = .ok (d, true) ∧ d.Fits ∧ d.exact = c.exact.mark ⟨k.toNat, hk⟩) := by
  have hread : c.seen[k.toNat]? = some c.seen[k.toNat] := Array.getElem?_eq_getElem hk
  cases hbit : c.seen[k.toNat] with
  | true =>
    refine .inl ⟨rfl, ?_⟩
    unfold WordCoverage.mark
    rw [hread, hbit]
  | false =>
    rw [hbit] at hread
    have hlt : c.covered.toNat < c.seen.size := h.wellFormed.covered_lt_total hread
    have hsum : (c.covered + 1).toNat = c.covered.toNat + 1 := by
      have hone : (1 : UInt64).toNat = 1 := rfl
      have hsize := h.size_lt
      rw [UInt64.toNat_add, hone, Nat.mod_eq_of_lt (by unfold UInt64.size at hsize; omega)]
    have hexact : WordCoverage.exact
        { c with seen := c.seen.setIfInBounds k.toNat true, covered := c.covered + 1 } =
          c.exact.mark ⟨k.toNat, hk⟩ := by
      unfold WordCoverage.exact Coverage.mark
      simp only [hsum, Array.setIfInBounds_def, hk, dite_true]
    refine .inr ⟨rfl, hlt, _, ?_, ⟨?_, ?_⟩, hexact⟩
    · unfold WordCoverage.mark
      rw [hread]
    · rw [hexact]
      exact h.wellFormed.mark ⟨k.toNat, hk⟩ hbit
    · simpa using h.size_lt

theorem Fits.safe (h : c.Fits) : c.Safe where
  slot_eq_ok_iff _ _ := slot_eq_ok_iff
  slot_eq_error_iff _ _ := slot_eq_error_iff h.size_lt
  exists_mark index k hslot := by
    rcases h.mark (slot_eq_ok_iff.mp hslot).2 with ⟨-, hmark⟩ | ⟨-, -, d, hmark, -⟩
    · exact ⟨c, false, hmark⟩
    · exact ⟨d, true, hmark⟩
  covered_mark k d hnew := by
    have hk : k.toNat < c.seen.size := by
      by_contra hout
      unfold WordCoverage.mark at hnew
      rw [Array.getElem?_eq_none (Nat.le_of_not_lt hout)] at hnew
      cases hnew
    rcases h.mark hk with ⟨-, hmark⟩ | ⟨-, hlt, d', hmark, -, hexact⟩
    · cases hmark.symm.trans hnew
    · cases hmark.symm.trans hnew
      exact ⟨hlt, congrArg Coverage.covered hexact⟩

/-- **A batch in words** is the batch in numbers, by induction on its indices. -/
theorem Fits.applyHits (h : c.Fits) (fresh : Bool) (indices : List Int128) :
    ∃ d answer, c.applyHits fresh indices = .ok (d, answer) ∧ d.Fits ∧
      c.exact.applyHits fresh (values indices) = (d.exact, answer) := by
  induction indices generalizing c fresh with
  | nil => exact ⟨c, .ok fresh, rfl, h, rfl⟩
  | cons index rest ih =>
    rw [WordCoverage.applyHits, values_cons]
    by_cases hin : InGraph c.seen.size index.val
    · obtain ⟨k, hslot⟩ := exists_slot h.size_lt hin
      obtain ⟨hval, hk⟩ := slot_eq_ok_iff.mp hslot
      have hslot' : c.exact.slot? index.val = some ⟨k.toNat, hk⟩ :=
        Coverage.slot?_eq_some_iff.mpr hval.symm
      rcases h.mark hk with ⟨hseen, hmark⟩ | ⟨hunseen, -, d, hmark, hfits, hexact⟩
      · obtain ⟨d, answer, hwords, hfits, hnumbers⟩ := ih h fresh
        refine ⟨d, answer, ?_, hfits, ?_⟩
        · simp only [hslot, hmark, Bool.or_false, hwords]
        · rw [Coverage.applyHits_of_seen hk hslot' hseen, hnumbers]
      · obtain ⟨e, answer, hwords, hfits, hnumbers⟩ := ih hfits true
        refine ⟨e, answer, ?_, hfits, ?_⟩
        · simp only [hslot, hmark, Bool.or_true, hwords]
        · rw [Coverage.applyHits_of_unseen hk hslot' hunseen, ← hexact, hnumbers]
    · have hslot := (slot_eq_error_iff h.size_lt).mpr ⟨hin, rfl⟩
      have hslot' : c.exact.slot? index.val = none := Coverage.slot?_eq_none_iff.mpr hin
      refine ⟨c, .error (.indexOutOfRange index.val c.seen.size), ?_, h, ?_⟩
      · rw [hslot]
      · rw [Coverage.applyHits, hslot']
        rfl

/-- A batch goes on from what the part before has left. -/
theorem applyHits_append {fresh news : Bool} {before : List Int128}
    (h : c.applyHits fresh before = .ok (d, .ok news)) (later : List Int128) :
    c.applyHits fresh (before ++ later) = d.applyHits news later := by
  induction before generalizing c fresh with
  | nil =>
    cases h
    rfl
  | cons index rest ih =>
    rw [List.cons_append, WordCoverage.applyHits]
    rw [WordCoverage.applyHits] at h
    split at h
    · cases h
    · split at h
      · cases h
      · exact ih h

/-- A batch that stays inside the graph gets to its end. -/
theorem Fits.applyHits_of_forall (h : c.Fits) {before : List Int128}
    (hin : ∀ index ∈ before, InGraph c.seen.size index.val) :
    ∃ d news, c.applyHits false before = .ok (d, .ok news) ∧ d.Fits := by
  obtain ⟨d, answer, hwords, hfits, hnumbers⟩ := h.applyHits false before
  have hin' : ∀ index ∈ values before, InGraph c.exact.total index := by
    unfold values
    exact List.forall_mem_map.mpr hin
  have hanswer : (c.exact.applyHits false (values before)).2 = .ok _ :=
    Coverage.snd_applyHits_of_forall hin'
  rw [hnumbers] at hanswer
  cases hanswer
  exact ⟨d, _, hwords, hfits⟩

end WordCoverage

/-! ## Runs -/

/-- A call of the tracker with an id or indices of 128 bits. -/
inductive WordCall where
  | register (clientId : Int128) (graph : StructureGraph)
  | report (indices : List Int128)
  deriving DecidableEq, Repr

namespace WordCall

/-- The call with integers. -/
def exact : WordCall → Call
  | .register clientId graph => .register clientId.val graph
  | .report indices => .report (values indices)

/-- The size of the graph is a word. -/
def Fits : WordCall → Prop
  | .register _ graph => graph.size < UInt64.size
  | .report _ => True

end WordCall

/-- A tracker as a machine keeps it, apart from its observer. -/
structure WordTracker where
  primaryId : UInt64
  coverage? : Option WordCoverage := none
  deriving DecidableEq, Repr

/-- What a tracker knows is all of its state. -/
theorem Tracker.state_eq (u : Tracker) :
    u.state = u.coverage?.elim .uninitialized .tracking := by
  unfold coverage?
  cases u.state <;> rfl

namespace WordTracker

/-- A registration by the primary client starts over with its graph; any other is ignored. -/
def register (t : WordTracker) (clientId : Int128) (graph : StructureGraph) : WordTracker :=
  if isPrimary t.primaryId clientId.val then { t with coverage? := some (.start graph) } else t

/-- Marks the nodes of a batch, and answers whether one of them was new. -/
def report (t : WordTracker) (indices : List Int128) :
    Except Fault (WordTracker × Except BatchError Bool) :=
  match t.coverage? with
  | none => .ok (t, .error .notInitialized)
  | some c =>
    match c.applyHits false indices with
    | .error fault => .error fault
    | .ok (d, answer) => .ok ({ t with coverage? := some d }, answer)

/-- The tracker after a call. -/
def step (t : WordTracker) : WordCall → Except Fault WordTracker
  | .register clientId graph => .ok (t.register clientId graph)
  | .report indices => (t.report indices).map (·.1)

/-- The tracker after a run. -/
def run (t : WordTracker) : List WordCall → Except Fault WordTracker
  | [] => .ok t
  | call :: rest =>
    match t.step call with
    | .error fault => .error fault
    | .ok t' => t'.run rest

/-- The words stand for what the tracker knows. -/
structure Matches (t : WordTracker) (u : Tracker) : Prop where
  primaryId : t.primaryId = u.primaryId
  coverage? : u.coverage? = t.coverage?.map WordCoverage.exact
  fits : ∀ c, t.coverage? = some c → c.Fits

variable {t : WordTracker} {u : Tracker} {call : WordCall} {calls : List WordCall}

theorem matches_start (p : UInt64) (o : Observer) :
    Matches { primaryId := p } (Tracker.start p o) where
  primaryId := rfl
  coverage? := rfl
  fits := nofun

theorem Matches.register (h : t.Matches u) (clientId : Int128) {graph : StructureGraph}
    (hsize : graph.size < UInt64.size) :
    (t.register clientId graph).Matches (u.register clientId.val graph).state := by
  unfold WordTracker.register Tracker.register
  rw [← h.primaryId]
  cases isPrimary t.primaryId clientId.val with
  | false => exact h
  | true =>
    rw [if_pos rfl, if_pos rfl]
    refine ⟨rfl, rfl, ?_⟩
    rintro c ⟨⟩
    exact WordCoverage.fits_start hsize

theorem Matches.report (h : t.Matches u) (indices : List Int128) :
    ∃ t' answer, t.report indices = .ok (t', answer) ∧
      t'.Matches (u.reportHits (values indices)).state ∧ u.Returns (values indices) answer := by
  have hstate := u.state_eq
  rw [h.coverage?] at hstate
  unfold WordTracker.report
  cases hc : t.coverage? with
  | none =>
    rw [hc] at hstate
    rw [Tracker.reportHits_uninitialized hstate]
    exact ⟨t, _, rfl, h, .value (by rw [Tracker.reportHits_uninitialized hstate])⟩
  | some c =>
    rw [hc] at hstate
    obtain ⟨d, answer, hwords, hfits, hnumbers⟩ := (h.fits c hc).applyHits false indices
    have hafter : c.exact.after (values indices) = d.exact := by
      rw [Coverage.after, hnumbers]
    refine ⟨{ t with coverage? := some d }, answer, by simp only [hwords], ⟨?_, ?_, ?_⟩, ?_⟩
    · exact h.primaryId.trans (u.reads_reportHits (values indices)).2.2.symm
    · rw [Tracker.coverage?, Tracker.tracking_reportHits hstate, hafter]
      rfl
    · rintro _ ⟨⟩
      exact hfits
    · rw [Tracker.returns_iff hstate, hnumbers]

/-- **A call in words** does not fault, and does what the call does. -/
theorem Matches.step (h : t.Matches u) (hfit : call.Fits) :
    ∃ t', t.step call = .ok t' ∧ t'.Matches (u.step call.exact) := by
  cases call with
  | register clientId graph => exact ⟨_, rfl, h.register clientId hfit⟩
  | report indices =>
    obtain ⟨t', answer, hreport, hmatches, -⟩ := h.report indices
    refine ⟨t', ?_, hmatches⟩
    rw [WordTracker.step, hreport]
    rfl

/-- **A run in words** does not fault, and knows what the tracker knows after the run. -/
theorem Matches.run (h : t.Matches u) (hfit : ∀ call ∈ calls, call.Fits) :
    ∃ t', t.run calls = .ok t' ∧ t'.Matches (u.run (calls.map WordCall.exact)) := by
  induction calls generalizing t u with
  | nil => exact ⟨t, rfl, h⟩
  | cons call rest ih =>
    obtain ⟨hcall, hrest⟩ := List.forall_mem_cons.mp hfit
    obtain ⟨t₁, hstep, hmatches⟩ := h.step hcall
    obtain ⟨t₂, hrun, hmatches⟩ := ih hmatches hrest
    refine ⟨t₂, ?_, hmatches⟩
    rw [WordTracker.run, hstep]
    exact hrun

end WordTracker

/-- **Slots, accesses and the counter are exact** in machine words. Take any run of calls from a new
tracker with any observer, in which batches may fail and the size of every graph is a word. In words
the run does not fault, and ends with what the tracker knows; no further batch faults either, and
each comes to what it comes to for the tracker. Before every index that the loop over such a batch
gets to, the slot of an index is that index as an integer and lies in the bitmap, an index that
names no node has none, a slot can be looked up, and where the mark is new the counter is below the
number of nodes and counts one more. -/
theorem marks_stay_exact (p : UInt64) (o : Observer) {calls : List WordCall}
    (hfit : ∀ call ∈ calls, call.Fits) :
    ∃ t, WordTracker.run { primaryId := p } calls = .ok t ∧
      let u := (Tracker.start p o).run (calls.map WordCall.exact)
      u.coverage? = t.coverage?.map WordCoverage.exact ∧
      (∀ indices, ∃ t' answer, t.report indices = .ok (t', answer) ∧
        u.Returns (values indices) answer) ∧
      ∀ c, t.coverage? = some c →
        ∀ before : List Int128, (∀ index ∈ before, InGraph c.seen.size index.val) →
          ∃ (d : WordCoverage) (news : Bool), d.Safe ∧
            ∀ later, c.applyHits false (before ++ later) = d.applyHits news later := by
  obtain ⟨t, hrun, hmatches⟩ := (WordTracker.matches_start p o).run hfit
  refine ⟨t, hrun, hmatches.coverage?, fun indices => ?_, fun c hc before hin => ?_⟩
  · obtain ⟨t', answer, hreport, -, hreturns⟩ := hmatches.report indices
    exact ⟨t', answer, hreport, hreturns⟩
  · obtain ⟨d, news, hbefore, hfits⟩ := (hmatches.fits c hc).applyHits_of_forall hin
    exact ⟨d, news, hfits.safe, WordCoverage.applyHits_append hbefore⟩

/-- A batch that fails, a registration of a smaller graph, and half of a batch on that. -/
theorem marks_stay_exact_smaller_graph :
    let calls : List WordCall :=
      [.register { val := 7 } (.withNodes 3),
        .report [{ val := 2 }, { val := 0 }, { val := -1 }, { val := 1 }],
        .register { val := 7 } (.withNodes 2)]
    let before : List Int128 := [{ val := 1 }]
    (∀ call ∈ calls, call.Fits) ∧ (∀ index ∈ before, InGraph 2 index.val) ∧
      ∃ t d, WordTracker.run { primaryId := 7 } calls = .ok t ∧
        t.coverage? = some (.start (.withNodes 2)) ∧
        (WordCoverage.start (.withNodes 2)).applyHits false before = .ok (d, .ok true) ∧
        d.covered = 1 ∧ d.Safe := by
  intro calls before
  have hthree : (StructureGraph.withNodes 3).size < UInt64.size := by decide
  have htwo : (StructureGraph.withNodes 2).size < UInt64.size := by decide
  have hfit : ∀ call ∈ calls, call.Fits :=
    List.forall_mem_cons.mpr ⟨hthree, List.forall_mem_cons.mpr
      ⟨trivial, List.forall_mem_singleton.mpr htwo⟩⟩
  have hin : ∀ index ∈ before, InGraph 2 index.val := by decide
  obtain ⟨t, hrun, -, -, hbatches⟩ := marks_stay_exact 7 .silent hfit
  have hend : WordTracker.run { primaryId := 7 } calls =
      .ok ⟨7, some (.start (.withNodes 2))⟩ := by decide
  cases hend.symm.trans hrun
  obtain ⟨d, news, hsafe, hlater⟩ := hbatches (.start (.withNodes 2)) rfl before hin
  have hmarked : (WordCoverage.start (.withNodes 2)).applyHits false before =
      .ok (⟨.withNodes 2, #[false, true], 1⟩, .ok true) := by decide
  cases hmarked.symm.trans (hlater [])
  exact ⟨hfit, hin, _, _, hend, rfl, hmarked, rfl, hsafe⟩

end NodeCoverage
