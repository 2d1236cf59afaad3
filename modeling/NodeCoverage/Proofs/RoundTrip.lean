import NodeCoverage.Proofs.WireText
import NodeCoverage.Proofs.Written

/-!
# Messages survive the wire

What is written for a message is one of its texts, so the reader of the message gives it back.

Results:
* `StructureGraph.written`, `CreateFuzzerRequest.written`, `UpdateFeaturesRequest.written` and the
  like: what is written for a message stands for it, with anything after it;
* `wire_round_trip`: every message is read back as it was, and writing again what a text says is
  a normal form of the text.
-/

namespace NodeCoverage

open Json
open Text (utf8)

theorem Json.Reader.Takes.decode_utf8 {α : Type} {reader : Reader α} {S : Spelling α} {a : α}
    {text : String} (h : reader.Takes S) (hw : Writes S text a) :
    reader.decode (utf8 text) = .ok a := by
  have hs := hw []
  rw [List.append_nil] at hs
  exact h.decode_eq hs .nil .nil

theorem writes_word (n : UInt64) : Writes WordText (writeNat n.toNat) n :=
  writeNat_numeral n.toNat

theorem writes_halfWord (n : UInt32) : Writes HalfWordText (writeNat n.toNat) n :=
  writeNat_numeral n.toNat

theorem writes_int128 (i : Int128) : Writes Int128Text (writeInt i.val) i :=
  writeInt_integer i.val

/-- What is written for a node stands for it. -/
theorem GraphNode.written (n : GraphNode) : Writes Spelled n.write n :=
  (WrittenFields.cons ((Writes.list writes_word n.predecessors).field _)
    (.cons ((Writes.list writes_word n.successors).field _) .nil)).record
      form_reads.distinct {} false

/-- What is written for a function stands for it. -/
theorem GraphFunction.written (f : GraphFunction) : Writes Spelled f.write f :=
  (WrittenFields.cons ((writeText_string f.name).field _)
    (.cons ((Writes.list writes_word f.nodeIndices).field _) .nil)).record
      form_reads.distinct {} false

/-- What is written for a graph stands for it. -/
theorem StructureGraph.written (g : StructureGraph) : Writes Spelled g.write g :=
  (WrittenFields.cons ((Writes.list GraphNode.written g.nodes).field _)
    (.cons ((Writes.list GraphFunction.written g.functions).field _) .nil)).record
      form_reads.distinct {} false

/-- What is written for a hit stands for it. -/
theorem BitCounter.written (b : BitCounter) : Writes Spelled b.write b :=
  (WrittenFields.cons ((writes_int128 b.nodeIndex).field _)
    (.cons ((writes_halfWord b.counter).field _) .nil)).record form_reads.distinct {} false

/-- What is written for a registration stands for it. -/
theorem CreateFuzzerRequest.written (r : CreateFuzzerRequest) : Writes Spelled r.write r :=
  (WrittenFields.cons ((writes_int128 r.fuzzerId).field _)
    (.cons ((Writes.option StructureGraph.written r.structureGraph).field _) .nil)).record
      form_reads.distinct {} false

/-- What is written for a report stands for it. -/
theorem UpdateFeaturesRequest.written (r : UpdateFeaturesRequest) : Writes Spelled r.write r :=
  (WrittenFields.cons ((writes_int128 r.fuzzerId).field _)
    (.cons ((Writes.list BitCounter.written r.bitCounters).field _)
      (.cons ((Writes.option writes_word r.corpusId).field _) .nil))).record
        form_reads.distinct {} false

/-- What is written for a status stands for it. -/
theorem RpcStatus.written (r : RpcStatus) : Writes Spelled r.write r :=
  (WrittenFields.cons ((writeText_string r.code).field _)
    (.cons ((writeText_string r.message).field _) .nil)).record form_reads.distinct ⟨"", ""⟩ true

/-- What a text becomes when it is read and what it says is written again. -/
def rewrite {α : Type} (reader : Reader α) (write : α → String) (s : List UInt8) :
    Except Failure (List UInt8) :=
  (reader.decode s).map fun a => utf8 (write a)

/-- The reader undoes the writer. A text that is read, however it is written, becomes one that
says the same, and that one stays as it is from then on. -/
structure RoundTrips {α : Type} (reader : Reader α) (write : α → String) : Prop where
  decode_write (a : α) : reader.decode (utf8 (write a)) = .ok a
  rewrite_says (s : List UInt8) (a : α) : reader.decode s = .ok a →
    ∃ s', rewrite reader write s = .ok s' ∧ reader.decode s' = .ok a
  rewrite_normal (s s' : List UInt8) : rewrite reader write s = .ok s' →
    rewrite reader write s' = .ok s'

theorem Json.Reader.Takes.roundTrips {α : Type} {reader : Reader α} {S : Spelling α}
    {write : α → String} (h : reader.Takes S) (hw : ∀ a, Writes S (write a) a) :
    RoundTrips reader write where
  decode_write a := h.decode_utf8 (hw a)
  rewrite_says s a ha := by
    refine ⟨utf8 (write a), ?_, h.decode_utf8 (hw a)⟩
    rw [rewrite, ha]
    rfl
  rewrite_normal s s' hs := by
    cases hread : reader.decode s with
    | error e =>
      rw [rewrite, hread] at hs
      cases hs
    | ok a =>
      rw [rewrite, hread] at hs
      cases hs
      rw [rewrite, h.decode_utf8 (hw a)]
      rfl

/-- **Every message survives the wire**: each value of each message is read back from its own text
exactly, and to read a text and write it again is a normal form. -/
theorem wire_round_trip :
    RoundTrips GraphNode.form.reader GraphNode.write ∧
    RoundTrips GraphFunction.form.reader GraphFunction.write ∧
    RoundTrips StructureGraph.form.reader StructureGraph.write ∧
    RoundTrips CreateFuzzerRequest.form.reader CreateFuzzerRequest.write ∧
    RoundTrips BitCounter.form.reader BitCounter.write ∧
    RoundTrips UpdateFeaturesRequest.form.reader UpdateFeaturesRequest.write ∧
    RoundTrips RpcStatus.form.reader RpcStatus.write :=
  ⟨GraphNode.takes_reader.roundTrips GraphNode.written,
    GraphFunction.takes_reader.roundTrips GraphFunction.written,
    StructureGraph.takes_reader.roundTrips StructureGraph.written,
    CreateFuzzerRequest.takes_reader.roundTrips CreateFuzzerRequest.written,
    BitCounter.takes_reader.roundTrips BitCounter.written,
    UpdateFeaturesRequest.takes_reader.roundTrips UpdateFeaturesRequest.written,
    RpcStatus.takes_reader.roundTrips RpcStatus.written⟩

end NodeCoverage
