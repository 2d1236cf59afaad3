import NodeCoverage.Graph
import NodeCoverage.Json.Record
import NodeCoverage.Json.Writer

/-!
# Structure graphs on the wire

The reader and the writer of each graph type. A field left out is empty.
-/

namespace NodeCoverage

open Json

namespace GraphNode

/-- How a node is read. -/
def form : RecordForm GraphNode where
  name := "GraphNode"
  blank := {}
  members := [
    .of "predecessors" (.list .uint64) fun xs n => { n with predecessors := xs },
    .of "successors" (.list .uint64) fun xs n => { n with successors := xs }]

/-- A node as text. -/
def write (n : GraphNode) : String :=
  writeRecord [
    ("predecessors", writeList (n.predecessors.map (writeNat ·.toNat))),
    ("successors", writeList (n.successors.map (writeNat ·.toNat)))]

end GraphNode

namespace GraphFunction

/-- How a function is read. -/
def form : RecordForm GraphFunction where
  name := "GraphFunction"
  blank := {}
  members := [
    .of "name" .text fun s f => { f with name := s },
    .of "node_indices" (.list .uint64) fun xs f => { f with nodeIndices := xs }]

/-- A function as text. -/
def write (f : GraphFunction) : String :=
  writeRecord [
    ("name", writeText f.name),
    ("node_indices", writeList (f.nodeIndices.map (writeNat ·.toNat)))]

end GraphFunction

namespace StructureGraph

/-- How a graph is read. -/
def form : RecordForm StructureGraph where
  name := "StructureGraph"
  blank := {}
  members := [
    .of "nodes" (.list GraphNode.form.reader) fun xs g => { g with nodes := xs },
    .of "functions" (.list GraphFunction.form.reader) fun xs g => { g with functions := xs }]

/-- A graph as text. -/
def write (g : StructureGraph) : String :=
  writeRecord [
    ("nodes", writeList (g.nodes.map (·.write))),
    ("functions", writeList (g.functions.map (·.write)))]

end StructureGraph

end NodeCoverage
