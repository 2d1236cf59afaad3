import NodeCoverage.Graph
import NodeCoverage.Progress

/-!
# Coverage of one graph

A bitmap over the nodes of a graph together with the count of its set bits. `WellFormed` says that
the three parts agree: one bit a node, and the count is the number of set bits. The operations on
coverage keep it (`wellFormed_start`, `WellFormed.mark`, `WellFormed.applyHits`).
-/

namespace NodeCoverage

/-- Why a batch of hits was stopped. -/
inductive BatchError where
  | notInitialized
  | indexOutOfRange (index : Int) (total : Nat)
  deriving DecidableEq, Repr

/-- The text of a batch error. -/
def BatchError.message : BatchError → String
  | .notInitialized => "No structure graph has been registered yet"
  | .indexOutOfRange index total =>
    s!"Node index {index} is out of range for a graph of {total} nodes"

/-- The nodes seen of one graph. -/
structure Coverage where
  graph : StructureGraph
  seen : Array Bool
  covered : Nat
  deriving DecidableEq, Repr

namespace Coverage

/-- Nothing seen yet. -/
def start (graph : StructureGraph) : Coverage where
  graph := graph
  seen := Array.replicate graph.size false
  covered := 0

/-- The number of nodes that can be seen. -/
def total (c : Coverage) : Nat :=
  c.seen.size

/-- The counts as they stand. -/
def progress (c : Coverage) : Progress where
  covered := c.covered
  total := c.total

/-- Whether a node has been seen, for an index in the graph. -/
def isSeen? (c : Coverage) (index : Nat) : Option Bool :=
  c.seen[index]?

/-- The slot of the bitmap that an index names. -/
def slot? (c : Coverage) (index : Int) : Option (Fin c.seen.size) :=
  if h : 0 ≤ index ∧ index.toNat < c.seen.size then some ⟨index.toNat, h.2⟩ else none

/-- Marks a slot that was not seen before, and counts it. -/
def mark (c : Coverage) (slot : Fin c.seen.size) : Coverage :=
  { c with seen := c.seen.set slot true, covered := c.covered + 1 }

/-- Marks the nodes of a batch in order, up to the first index that names none. The answer is
whether a node was new, `fresh` standing for those before; an index that names no node is the
error. -/
def applyHits (c : Coverage) (fresh : Bool) : List Int → Coverage × Except BatchError Bool
  | [] => (c, .ok fresh)
  | index :: rest =>
    match c.slot? index with
    | none => (c, .error (.indexOutOfRange index c.total))
    | some slot =>
      if c.seen[slot] then c.applyHits fresh rest else (c.mark slot).applyHits true rest

/-! ## The invariant -/

/-- One bit for each node, and the count is that of the set bits. -/
structure WellFormed (c : Coverage) : Prop where
  size_seen : c.seen.size = c.graph.size
  covered_eq : c.covered = c.seen.count true

@[simp]
theorem total_start (g : StructureGraph) : (start g).total = g.size := by
  simp [start, total]

@[simp]
theorem graph_mark (c : Coverage) (slot : Fin c.seen.size) : (c.mark slot).graph = c.graph :=
  rfl

@[simp]
theorem total_mark (c : Coverage) (slot : Fin c.seen.size) : (c.mark slot).total = c.total := by
  simp [mark, total]

theorem wellFormed_start (g : StructureGraph) : (start g).WellFormed where
  size_seen := by simp [start]
  covered_eq := by simp [start, Array.count_replicate]

theorem WellFormed.mark {c : Coverage} (h : c.WellFormed) (slot : Fin c.seen.size)
    (unseen : c.seen[slot] = false) : (c.mark slot).WellFormed where
  size_seen := by simpa [Coverage.mark] using h.size_seen
  covered_eq := by
    have := h.covered_eq
    simp [Coverage.mark, Array.count_set, this] at unseen ⊢
    simp [unseen]

theorem WellFormed.applyHits {c : Coverage} (h : c.WellFormed) (fresh : Bool)
    (indices : List Int) : (c.applyHits fresh indices).1.WellFormed := by
  fun_induction Coverage.applyHits c fresh indices with
  | case1 => exact h
  | case2 => exact h
  | case3 c fresh index rest slot hs seen ih => exact ih h
  | case4 c fresh index rest slot hs unseen ih => exact ih (h.mark slot (by simpa using unseen))

end Coverage

end NodeCoverage
