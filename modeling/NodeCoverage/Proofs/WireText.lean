import NodeCoverage.Proofs.Reading
import NodeCoverage.Wire.Message

/-!
# The messages as they are written

The fields of each message with the spellings of their values, and with them the texts that stand
for a message. The reader of every message takes all of these texts.
-/

namespace NodeCoverage

open Json

theorem Json.Member.Reads.of {R α : Type} {name : String} {value : Reader α} {S : Spelling α}
    (h : value.Takes S) (set : α → R → R) : (Member.of name value set).Reads (.of name S set) where
  name_eq := rfl
  takes := h.map set

/-- No record is null. -/
theorem Json.RecordText.ne_null {R : Type} {blank a : R} {fields : List (FieldText R)}
    {required : Bool} {s t : List UInt8} : ¬ RecordText blank fields required (0x6E :: s) a t := by
  intro h
  cases h

theorem Json.WordText.ne_null {a : UInt64} {s t : List UInt8} : ¬ WordText (0x6E :: s) a t := by
  intro h
  obtain ⟨d, r, hs, hd⟩ := Numeral.exists_cons h
  cases hs
  exact absurd hd (by decide)

namespace GraphNode

/-- The fields of a node. -/
def fields : List (FieldText GraphNode) := [
  .of "predecessors" (ListText WordText) fun xs n => { n with predecessors := xs },
  .of "successors" (ListText WordText) fun xs n => { n with successors := xs }]

/-- The texts of a node. -/
def Spelled : Spelling GraphNode :=
  RecordText {} fields false

theorem form_reads : form.Reads fields where
  distinct := by decide
  members := .cons (.of takes_uint64.list _) (.cons (.of takes_uint64.list _) .nil)

theorem takes_reader : form.reader.Takes Spelled :=
  form_reads.takes

end GraphNode

namespace GraphFunction

/-- The fields of a function. -/
def fields : List (FieldText GraphFunction) := [
  .of "name" StringText fun s f => { f with name := s },
  .of "node_indices" (ListText WordText) fun xs f => { f with nodeIndices := xs }]

/-- The texts of a function. -/
def Spelled : Spelling GraphFunction :=
  RecordText {} fields false

theorem form_reads : form.Reads fields where
  distinct := by decide
  members := .cons (.of takes_text _) (.cons (.of takes_uint64.list _) .nil)

theorem takes_reader : form.reader.Takes Spelled :=
  form_reads.takes

end GraphFunction

namespace StructureGraph

/-- The fields of a graph. -/
def fields : List (FieldText StructureGraph) := [
  .of "nodes" (ListText GraphNode.Spelled) fun xs g => { g with nodes := xs },
  .of "functions" (ListText GraphFunction.Spelled) fun xs g => { g with functions := xs }]

/-- The texts of a graph. -/
def Spelled : Spelling StructureGraph :=
  RecordText {} fields false

theorem form_reads : form.Reads fields where
  distinct := by decide
  members :=
    .cons (.of GraphNode.takes_reader.list _)
      (.cons (.of GraphFunction.takes_reader.list _) .nil)

theorem takes_reader : form.reader.Takes Spelled :=
  form_reads.takes

end StructureGraph

namespace BitCounter

/-- The fields of a hit. -/
def fields : List (FieldText BitCounter) := [
  .of "node_index" Int128Text fun i b => { b with nodeIndex := i },
  .of "counter" HalfWordText fun n b => { b with counter := n }]

/-- The texts of a hit. -/
def Spelled : Spelling BitCounter :=
  RecordText {} fields false

theorem form_reads : form.Reads fields where
  distinct := by decide
  members := .cons (.of takes_int128 _) (.cons (.of takes_uint32 _) .nil)

theorem takes_reader : form.reader.Takes Spelled :=
  form_reads.takes

end BitCounter

namespace CreateFuzzerRequest

/-- The fields of a registration. -/
def fields : List (FieldText CreateFuzzerRequest) := [
  .of "fuzzer_id" Int128Text fun i r => { r with fuzzerId := i },
  .of "structure_graph" (OptionText StructureGraph.Spelled) fun g r =>
    { r with structureGraph := g }]

/-- The texts of a registration. -/
def Spelled : Spelling CreateFuzzerRequest :=
  RecordText {} fields false

theorem form_reads : form.Reads fields where
  distinct := by decide
  members :=
    .cons (.of takes_int128 _)
      (.cons (.of
        (StructureGraph.takes_reader.optional fun _ _ _ => RecordText.ne_null) _) .nil)

theorem takes_reader : form.reader.Takes Spelled :=
  form_reads.takes

end CreateFuzzerRequest

namespace UpdateFeaturesRequest

/-- The fields of a report. -/
def fields : List (FieldText UpdateFeaturesRequest) := [
  .of "fuzzer_id" Int128Text fun i r => { r with fuzzerId := i },
  .of "bit_counters" (ListText BitCounter.Spelled) fun xs r => { r with bitCounters := xs },
  .of "corpus_id" (OptionText WordText) fun n r => { r with corpusId := n }]

/-- The texts of a report. -/
def Spelled : Spelling UpdateFeaturesRequest :=
  RecordText {} fields false

theorem form_reads : form.Reads fields where
  distinct := by decide
  members :=
    .cons (.of takes_int128 _)
      (.cons (.of BitCounter.takes_reader.list _)
        (.cons (.of (takes_uint64.optional fun _ _ _ => WordText.ne_null) _) .nil))

theorem takes_reader : form.reader.Takes Spelled :=
  form_reads.takes

end UpdateFeaturesRequest

namespace RpcStatus

/-- The fields of a status. -/
def fields : List (FieldText RpcStatus) := [
  .of "code" StringText fun s r => { r with code := s },
  .of "message" StringText fun s r => { r with message := s }]

/-- The texts of a status, which must have both of its fields. -/
def Spelled : Spelling RpcStatus :=
  RecordText ⟨"", ""⟩ fields true

theorem form_reads : form.Reads fields where
  distinct := by decide
  members := .cons (.of takes_text _) (.cons (.of takes_text _) .nil)

theorem takes_reader : form.reader.Takes Spelled :=
  form_reads.takes

end RpcStatus

end NodeCoverage
