import NodeCoverage.Wire.Graph

/-!
# Requests and answers on the wire

The messages of the service, each with its reader and its writer. Every field of a request may be
left out; a status must have both of its fields.
-/

namespace NodeCoverage

open Json

/-- One hit. Only the index counts; the counter is carried along. -/
structure BitCounter where
  nodeIndex : Int128 := default
  counter : UInt32 := 0
  deriving DecidableEq, Repr, Inhabited

/-- A client announces itself, and its graph if it has one. -/
structure CreateFuzzerRequest where
  fuzzerId : Int128 := default
  structureGraph : Option StructureGraph := none
  deriving DecidableEq, Repr, Inhabited

/-- A client reports a batch of hits. -/
structure UpdateFeaturesRequest where
  fuzzerId : Int128 := default
  bitCounters : List BitCounter := []
  corpusId : Option UInt64 := none
  deriving DecidableEq, Repr, Inhabited

/-- The answer to either request when all went well: a record without fields. -/
structure Acknowledgement where
  deriving DecidableEq, Repr, Inhabited

/-- The body of a failed call. -/
structure RpcStatus where
  code : String
  message : String
  deriving DecidableEq, Repr, Inhabited

namespace BitCounter

/-- How a hit is read. -/
def form : RecordForm BitCounter where
  name := "BitCounter"
  blank := {}
  members := [
    .of "node_index" .int128 fun i b => { b with nodeIndex := i },
    .of "counter" .uint32 fun n b => { b with counter := n }]

/-- A hit as text. -/
def write (b : BitCounter) : String :=
  writeRecord [
    ("node_index", writeInt b.nodeIndex.val),
    ("counter", writeNat b.counter.toNat)]

end BitCounter

namespace CreateFuzzerRequest

/-- How the request is read. -/
def form : RecordForm CreateFuzzerRequest where
  name := "CreateFuzzerRequest"
  blank := {}
  members := [
    .of "fuzzer_id" .int128 fun i r => { r with fuzzerId := i },
    .of "structure_graph" (.optional StructureGraph.form.reader) fun g r =>
      { r with structureGraph := g }]

/-- The request as text. -/
def write (r : CreateFuzzerRequest) : String :=
  writeRecord [
    ("fuzzer_id", writeInt r.fuzzerId.val),
    ("structure_graph", writeOption (r.structureGraph.map (·.write)))]

end CreateFuzzerRequest

namespace UpdateFeaturesRequest

/-- The indices of the hits, in order. -/
def indices (r : UpdateFeaturesRequest) : List Int :=
  r.bitCounters.map (·.nodeIndex.val)

/-- How the request is read. -/
def form : RecordForm UpdateFeaturesRequest where
  name := "UpdateFeaturesRequest"
  blank := {}
  members := [
    .of "fuzzer_id" .int128 fun i r => { r with fuzzerId := i },
    .of "bit_counters" (.list BitCounter.form.reader) fun xs r => { r with bitCounters := xs },
    .of "corpus_id" (.optional .uint64) fun n r => { r with corpusId := n }]

/-- The request as text. -/
def write (r : UpdateFeaturesRequest) : String :=
  writeRecord [
    ("fuzzer_id", writeInt r.fuzzerId.val),
    ("bit_counters", writeList (r.bitCounters.map (·.write))),
    ("corpus_id", writeOption (r.corpusId.map (writeNat ·.toNat)))]

end UpdateFeaturesRequest

namespace Acknowledgement

/-- How the answer to a request of some kind is read, `name` being that of its type. -/
def form (name : String) : RecordForm Acknowledgement where
  name := name
  blank := {}
  members := []

/-- The answer as text. -/
def write (_ : Acknowledgement) : String :=
  writeRecord []

end Acknowledgement

namespace RpcStatus

/-- How a status is read. -/
def form : RecordForm RpcStatus where
  name := "RpcStatus"
  blank := ⟨"", ""⟩
  members := [
    .of "code" .text fun s r => { r with code := s },
    .of "message" .text fun s r => { r with message := s }]
  strict := true

/-- A status as text. -/
def write (r : RpcStatus) : String :=
  writeRecord [("code", writeText r.code), ("message", writeText r.message)]

end RpcStatus

end NodeCoverage
