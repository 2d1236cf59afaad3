import NodeCoverage.Proofs.Place

/-!
# The shapes of the messages

Each message that a client sends, and each record in it, has a shape, and so have its fields. This
is what a way into a message is made of: the shape of the message, then that of one of its fields,
and so on down to the value.

Results:
* `GraphNode.shape`, `GraphFunction.shape`, `StructureGraph.shape`, `BitCounter.shape`,
  `CreateFuzzerRequest.shape`, `UpdateFeaturesRequest.shape`;
* for each field that leads to an integer, that it has its shape (`HasShape`).
-/

namespace NodeCoverage

open Json

namespace GraphNode

theorem layout_isLocal : layout.IsLocal :=
  List.forall_mem_cons.mpr ⟨ListText.isLocal wordText_isLocal,
    List.forall_mem_singleton.mpr (ListText.isLocal wordText_isLocal)⟩

def shape : Shape GraphNode :=
  .record layout_fits layout_isLocal

/-- The nodes before this one. -/
abbrev predecessorsField : RecordField GraphNode :=
  layout.fields[0]

/-- The nodes after this one. -/
abbrev successorsField : RecordField GraphNode :=
  layout.fields[1]

theorem predecessors_hasShape : layout.HasShape form predecessorsField (.list .word) :=
  ⟨List.mem_cons_self, rfl, List.mem_cons_self⟩

theorem successors_hasShape : layout.HasShape form successorsField (.list .word) :=
  ⟨List.mem_cons_of_mem _ List.mem_cons_self, rfl, List.mem_cons_of_mem _ List.mem_cons_self⟩

end GraphNode

namespace GraphFunction

theorem layout_isLocal : layout.IsLocal :=
  List.forall_mem_cons.mpr ⟨stringText_isLocal,
    List.forall_mem_singleton.mpr (ListText.isLocal wordText_isLocal)⟩

def shape : Shape GraphFunction :=
  .record layout_fits layout_isLocal

/-- The nodes of the function. -/
abbrev nodeIndicesField : RecordField GraphFunction :=
  layout.fields[1]

theorem nodeIndices_hasShape : layout.HasShape form nodeIndicesField (.list .word) :=
  ⟨List.mem_cons_of_mem _ List.mem_cons_self, rfl, List.mem_cons_of_mem _ List.mem_cons_self⟩

end GraphFunction

namespace StructureGraph

theorem layout_isLocal : layout.IsLocal :=
  List.forall_mem_cons.mpr ⟨ListText.isLocal GraphNode.shape.isLocal,
    List.forall_mem_singleton.mpr (ListText.isLocal GraphFunction.shape.isLocal)⟩

def shape : Shape StructureGraph :=
  .record layout_fits layout_isLocal

abbrev nodesField : RecordField StructureGraph :=
  layout.fields[0]

abbrev functionsField : RecordField StructureGraph :=
  layout.fields[1]

theorem nodes_hasShape : layout.HasShape form nodesField GraphNode.shape.list :=
  ⟨List.mem_cons_self, rfl, List.mem_cons_self⟩

theorem functions_hasShape : layout.HasShape form functionsField GraphFunction.shape.list :=
  ⟨List.mem_cons_of_mem _ List.mem_cons_self, rfl, List.mem_cons_of_mem _ List.mem_cons_self⟩

end StructureGraph

namespace BitCounter

theorem layout_isLocal : layout.IsLocal :=
  List.forall_mem_cons.mpr ⟨int128Text_isLocal, List.forall_mem_singleton.mpr halfWordText_isLocal⟩

def shape : Shape BitCounter :=
  .record layout_fits layout_isLocal

/-- The node that was hit. -/
abbrev nodeIndexField : RecordField BitCounter :=
  layout.fields[0]

abbrev counterField : RecordField BitCounter :=
  layout.fields[1]

theorem nodeIndex_hasShape : layout.HasShape form nodeIndexField .int128 :=
  ⟨List.mem_cons_self, rfl, List.mem_cons_self⟩

theorem counter_hasShape : layout.HasShape form counterField .halfWord :=
  ⟨List.mem_cons_of_mem _ List.mem_cons_self, rfl, List.mem_cons_of_mem _ List.mem_cons_self⟩

end BitCounter

namespace CreateFuzzerRequest

theorem layout_isLocal : layout.IsLocal :=
  List.forall_mem_cons.mpr ⟨int128Text_isLocal,
    List.forall_mem_singleton.mpr (OptionText.isLocal StructureGraph.shape.isLocal)⟩

def shape : Shape CreateFuzzerRequest :=
  .record layout_fits layout_isLocal

/-- The client that registers. -/
abbrev fuzzerIdField : RecordField CreateFuzzerRequest :=
  layout.fields[0]

theorem fuzzerId_hasShape : layout.HasShape form fuzzerIdField .int128 :=
  ⟨List.mem_cons_self, rfl, List.mem_cons_self⟩

theorem graph_hasShape : layout.HasShape form graphField
    (StructureGraph.shape.optional fun _ _ _ => RecordText.ne_null) :=
  ⟨List.mem_cons_of_mem _ List.mem_cons_self, rfl, List.mem_cons_of_mem _ List.mem_cons_self⟩

end CreateFuzzerRequest

namespace UpdateFeaturesRequest

theorem layout_isLocal : layout.IsLocal :=
  List.forall_mem_cons.mpr ⟨int128Text_isLocal,
    List.forall_mem_cons.mpr ⟨ListText.isLocal BitCounter.shape.isLocal,
      List.forall_mem_singleton.mpr (OptionText.isLocal wordText_isLocal)⟩⟩

def shape : Shape UpdateFeaturesRequest :=
  .record layout_fits layout_isLocal

/-- The client that reports. -/
abbrev fuzzerIdField : RecordField UpdateFeaturesRequest :=
  layout.fields[0]

abbrev bitCountersField : RecordField UpdateFeaturesRequest :=
  layout.fields[1]

theorem fuzzerId_hasShape : layout.HasShape form fuzzerIdField .int128 :=
  ⟨List.mem_cons_self, rfl, List.mem_cons_self⟩

theorem bitCounters_hasShape : layout.HasShape form bitCountersField BitCounter.shape.list :=
  ⟨List.mem_cons_of_mem _ List.mem_cons_self, rfl, List.mem_cons_of_mem _ List.mem_cons_self⟩

theorem corpus_hasShape : layout.HasShape form corpusField
    (Shape.word.optional fun _ _ _ => WordText.ne_null) :=
  ⟨List.mem_cons_of_mem _ (List.mem_cons_of_mem _ List.mem_cons_self), rfl,
    List.mem_cons_of_mem _ (List.mem_cons_of_mem _ List.mem_cons_self)⟩

end UpdateFeaturesRequest

end NodeCoverage
