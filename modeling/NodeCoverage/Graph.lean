/-!
# Structure graphs

The graph that coverage is measured over. A node is known only by its position in `nodes`;
adjacency and functions are carried along and never interpreted.
-/

namespace NodeCoverage

/-- One coverage point, with the neighbours its sender claims for it. -/
structure GraphNode where
  predecessors : List UInt64 := []
  successors : List UInt64 := []
  deriving DecidableEq, Repr, Inhabited

/-- A named group of node indices. -/
structure GraphFunction where
  name : String := ""
  nodeIndices : List UInt64 := []
  deriving DecidableEq, Repr, Inhabited

/-- The graph a primary client registers. -/
structure StructureGraph where
  nodes : List GraphNode := []
  functions : List GraphFunction := []
  deriving DecidableEq, Repr, Inhabited

namespace StructureGraph

/-- A graph of `n` nodes with no edges and no functions. -/
def withNodes (n : Nat) : StructureGraph where
  nodes := List.replicate n {}

/-- The number of nodes. -/
def size (g : StructureGraph) : Nat :=
  g.nodes.length

/-- Whether the graph has no node. -/
def isEmpty (g : StructureGraph) : Bool :=
  g.nodes.isEmpty

@[simp]
theorem size_withNodes (n : Nat) : (withNodes n).size = n := by
  simp [withNodes, size]

theorem isEmpty_iff (g : StructureGraph) : g.isEmpty = true ↔ g.size = 0 := by
  simp [isEmpty, size]

end StructureGraph

end NodeCoverage
