import NodeCoverage.Proofs.Repetition
import NodeCoverage.Proofs.WireText

/-!
# Every spelling of a message

A client may spell a message as it likes: with blanks between any two tokens, the members of an
object in any order and among keys that nobody knows, keys with escapes, a record as the array of
its first fields. The layouts below say what each message is made of, and all that the reader of a
message makes of a text is the one record that holds what the text gives. Only a field that is given
twice fails it.

Results:
* `Layout.Accepts`, `Layout.AcceptsNull`: what it is for a reader to take every spelling;
* `Layout.Fits.accepts`, `Layout.Fits.acceptsNull`: the reader of a record does;
* **`messages_accept_every_spelling`**: so do the readers of the six messages that a client sends,
  alone or inside of each other.
-/

namespace NodeCoverage

namespace Json

/-- A whole text: what is spelled, with blanks around it. -/
def Whole {α : Type} (S : Spelling α) (text : List UInt8) (a : α) : Prop :=
  ∃ s t, Blanks text s ∧ S s a t ∧ Blanks t []

namespace Layout

variable {R : Type} {layout : Layout R} {form : RecordForm R} {reader : Reader R}
  {f : RecordField R} {gs gs' : List (Given R)} {s t text text' : List UInt8}

/-- The text is decoded to the one record that holds what is given. -/
def Decodes (layout : Layout R) (reader : Reader R) (text : List UInt8) (gs : List (Given R)) :
    Prop :=
  ∃ r, reader.decode text = .ok r ∧ ∀ r', layout.Holds gs r' ↔ r' = r

/-- **The reader takes every spelling** of a record of the layout, and no field twice. -/
structure Accepts (layout : Layout R) (reader : Reader R) (S : Spelling R) : Prop where
  /-- Inside another value a text stands for the record that holds what it gives. -/
  spelled : ∀ s r t, S s r t ↔
    (∃ gs, layout.ObjectText s gs t ∧ layout.Holds gs r) ∨
      ∃ ps, layout.ArrayText s ps t ∧ layout.Holds (ps.map (·.given)) r
  object : ∀ text gs, Whole layout.ObjectText text gs → layout.Decodes reader text gs
  array : ∀ text ps, Whole layout.ArrayText text ps →
    layout.Decodes reader text (ps.map (·.given))
  /-- An array is decoded to what the object with just those members is. -/
  alike : ∀ text ps text' gs, Whole layout.ArrayText text ps → Whole layout.ObjectText text' gs →
    gs.Perm (ps.map (·.given)) → reader.decode text = reader.decode text'
  repeated : ∀ text s key path, Blanks text s → layout.Repeats s key path →
    reader.decode text = .error (givenTwice key path)

/-- **Null in the place of the field** is read as if nothing were there. -/
structure AcceptsNull (layout : Layout R) (reader : Reader R) (f : RecordField R) : Prop where
  null : ∀ text gs, Whole (layout.NullText f) text gs → layout.Decodes reader text gs
  alike : ∀ text gs text' gs', Whole (layout.NullText f) text gs →
    Whole layout.ObjectText text' gs' → gs'.Perm gs → reader.decode text = reader.decode text'

/-- What is given decides what a text is decoded to, and not the order of it. -/
theorem Decodes.decode_eq (h : layout.Decodes reader text gs)
    (h' : layout.Decodes reader text' gs') (hperm : gs.Perm gs') :
    reader.decode text = reader.decode text' := by
  obtain ⟨r, hr, hholds⟩ := h
  obtain ⟨r', hr', hholds'⟩ := h'
  have heq : r = r' := (hholds' r).mp ((holds_perm hperm).mp ((hholds r).mpr rfl))
  rw [hr, hr', heq]

namespace Fits

theorem decodes (h : layout.Fits form) (htext : Blanks text s) (hs : layout.TextOf s gs t)
    (ht : Blanks t []) : layout.Decodes form.reader text gs := by
  obtain ⟨hgives, r, hr, hholds⟩ := hs
  refine ⟨r, h.takes.decode_eq hr htext ht, fun r' => ⟨fun hholds' => ?_, ?_⟩⟩
  · exact hholds'.unique hgives hholds
  · rintro rfl
    exact hholds

/-- **The reader of a record takes every spelling of it.** -/
theorem accepts (h : layout.Fits form) :
    layout.Accepts form.reader (RecordText layout.blank layout.texts false) := by
  have hobject : ∀ text gs, Whole layout.ObjectText text gs →
      layout.Decodes form.reader text gs := by
    rintro text gs ⟨s, t, htext, hs, ht⟩
    exact h.decodes htext hs.textOf ht
  have harray : ∀ text ps, Whole layout.ArrayText text ps →
      layout.Decodes form.reader text (ps.map (·.given)) := by
    rintro text ps ⟨s, t, htext, hs, ht⟩
    exact h.decodes htext hs.textOf ht
  refine ⟨fun s r t => recordText_iff, hobject, harray, ?_, ?_⟩
  · intro text ps text' gs htext htext' hperm
    exact (harray text ps htext).decode_eq (hobject text' gs htext') hperm.symm
  · intro text s key path htext hrepeats
    exact (h.rejects_repeats.fails hrepeats).decode_eq htext

/-- A field is read as if it were not there when it is null, if null stands for its default. -/
theorem acceptsNull (h : layout.Fits form) (hf : f ∈ layout.fields)
    (hnull : ∀ t, f.spelling (0x6E :: 0x75 :: 0x6C :: 0x6C :: t) f.default t) :
    layout.AcceptsNull form.reader f := by
  have hdecodes : ∀ text gs, Whole (layout.NullText f) text gs →
      layout.Decodes form.reader text gs := by
    rintro text gs ⟨s, t, htext, hs, ht⟩
    exact h.decodes htext (hs.textOf hf hnull) ht
  refine ⟨hdecodes, fun text gs text' gs' htext htext' hperm => ?_⟩
  exact (hdecodes text gs htext).decode_eq (h.accepts.object text' gs' htext') hperm.symm

end Fits

end Layout

end Json

open Json

/-! ## The layouts of the messages -/

namespace GraphNode

/-- What a node is made of. -/
def layout : Layout GraphNode where
  fields := [
    { name := "predecessors"
      Value := List UInt64
      spelling := ListText WordText
      default := []
      get := fun n => n.predecessors
      set := fun xs n => { n with predecessors := xs } },
    { name := "successors"
      Value := List UInt64
      spelling := ListText WordText
      default := []
      get := fun n => n.successors
      set := fun xs n => { n with successors := xs } }]
  blank := {}
  distinct := by decide
  get_blank := by simp
  get_set := by simp
  get_set_of_ne := by simp
  ext := by
    rintro ⟨predecessors, successors⟩ ⟨predecessors', successors'⟩ h
    simpa using h

theorem layout_fits : layout.Fits form where
  blank_eq := rfl
  strict_eq := rfl
  reads := form_reads
  rejects := .cons (.of rfl (.never _)) (.cons (.of rfl (.never _)) .nil)

end GraphNode

namespace GraphFunction

/-- What a function is made of. -/
def layout : Layout GraphFunction where
  fields := [
    { name := "name"
      Value := String
      spelling := StringText
      default := ""
      get := fun f => f.name
      set := fun s f => { f with name := s } },
    { name := "node_indices"
      Value := List UInt64
      spelling := ListText WordText
      default := []
      get := fun f => f.nodeIndices
      set := fun xs f => { f with nodeIndices := xs } }]
  blank := {}
  distinct := by decide
  get_blank := by simp
  get_set := by simp
  get_set_of_ne := by simp
  ext := by
    rintro ⟨name, nodeIndices⟩ ⟨name', nodeIndices'⟩ h
    simpa using h

theorem layout_fits : layout.Fits form where
  blank_eq := rfl
  strict_eq := rfl
  reads := form_reads
  rejects := .cons (.of rfl (.never _)) (.cons (.of rfl (.never _)) .nil)

end GraphFunction

namespace StructureGraph

/-- What a graph is made of. -/
def layout : Layout StructureGraph where
  fields := [
    { name := "nodes"
      Value := List GraphNode
      spelling := ListText GraphNode.Spelled
      default := []
      get := fun g => g.nodes
      set := fun xs g => { g with nodes := xs }
      repeats := ListRepeats GraphNode.Spelled GraphNode.layout.Repeats },
    { name := "functions"
      Value := List GraphFunction
      spelling := ListText GraphFunction.Spelled
      default := []
      get := fun g => g.functions
      set := fun xs g => { g with functions := xs }
      repeats := ListRepeats GraphFunction.Spelled GraphFunction.layout.Repeats }]
  blank := {}
  distinct := by decide
  get_blank := by simp
  get_set := by simp
  get_set_of_ne := by simp
  ext := by
    rintro ⟨nodes, functions⟩ ⟨nodes', functions'⟩ h
    simpa using h

theorem layout_fits : layout.Fits form where
  blank_eq := rfl
  strict_eq := rfl
  reads := form_reads
  rejects :=
    .cons (.of rfl (GraphNode.layout_fits.rejects_repeats.list GraphNode.takes_reader))
      (.cons (.of rfl (GraphFunction.layout_fits.rejects_repeats.list GraphFunction.takes_reader))
        .nil)

end StructureGraph

namespace BitCounter

/-- What a hit is made of. -/
def layout : Layout BitCounter where
  fields := [
    { name := "node_index"
      Value := Int128
      spelling := Int128Text
      default := (default : Int128) -- zero
      get := fun b => b.nodeIndex
      set := fun i b => { b with nodeIndex := i } },
    { name := "counter"
      Value := UInt32
      spelling := HalfWordText
      default := 0
      get := fun b => b.counter
      set := fun n b => { b with counter := n } }]
  blank := {}
  distinct := by decide
  get_blank := by simp
  get_set := by simp
  get_set_of_ne := by simp
  ext := by
    rintro ⟨nodeIndex, counter⟩ ⟨nodeIndex', counter'⟩ h
    simpa using h

theorem layout_fits : layout.Fits form where
  blank_eq := rfl
  strict_eq := rfl
  reads := form_reads
  rejects := .cons (.of rfl (.never _)) (.cons (.of rfl (.never _)) .nil)

end BitCounter

namespace CreateFuzzerRequest

/-- The graph of a registration, which need not have one. -/
def graphField : RecordField CreateFuzzerRequest where
  name := "structure_graph"
  Value := Option StructureGraph
  spelling := OptionText StructureGraph.Spelled
  default := none
  get r := r.structureGraph
  set g r := { r with structureGraph := g }
  repeats := StructureGraph.layout.Repeats

/-- What a registration is made of. -/
def layout : Layout CreateFuzzerRequest where
  fields := [
    { name := "fuzzer_id"
      Value := Int128
      spelling := Int128Text
      default := (default : Int128) -- zero
      get := fun r => r.fuzzerId
      set := fun i r => { r with fuzzerId := i } },
    graphField]
  blank := {}
  distinct := by decide
  get_blank := by simp [graphField]
  get_set := by simp [graphField]
  get_set_of_ne := by simp [graphField]
  ext := by
    rintro ⟨fuzzerId, structureGraph⟩ ⟨fuzzerId', structureGraph'⟩ h
    simpa [graphField] using h

theorem layout_fits : layout.Fits form where
  blank_eq := rfl
  strict_eq := rfl
  reads := form_reads
  rejects :=
    .cons (.of rfl (.never _))
      (.cons (.of rfl (StructureGraph.layout_fits.rejects_repeats.optional
        fun _ _ _ => Layout.Repeats.ne_null)) .nil)

end CreateFuzzerRequest

namespace UpdateFeaturesRequest

/-- The corpus of a report, which need not name one. -/
def corpusField : RecordField UpdateFeaturesRequest where
  name := "corpus_id"
  Value := Option UInt64
  spelling := OptionText WordText
  default := none
  get r := r.corpusId
  set n r := { r with corpusId := n }

/-- What a report is made of. -/
def layout : Layout UpdateFeaturesRequest where
  fields := [
    { name := "fuzzer_id"
      Value := Int128
      spelling := Int128Text
      default := (default : Int128) -- zero
      get := fun r => r.fuzzerId
      set := fun i r => { r with fuzzerId := i } },
    { name := "bit_counters"
      Value := List BitCounter
      spelling := ListText BitCounter.Spelled
      default := []
      get := fun r => r.bitCounters
      set := fun xs r => { r with bitCounters := xs }
      repeats := ListRepeats BitCounter.Spelled BitCounter.layout.Repeats },
    corpusField]
  blank := {}
  distinct := by decide
  get_blank := by simp [corpusField]
  get_set := by simp [corpusField]
  get_set_of_ne := by simp [corpusField]
  ext := by
    rintro ⟨fuzzerId, bitCounters, corpusId⟩ ⟨fuzzerId', bitCounters', corpusId'⟩ h
    simpa [corpusField] using h

theorem layout_fits : layout.Fits form where
  blank_eq := rfl
  strict_eq := rfl
  reads := form_reads
  rejects :=
    .cons (.of rfl (.never _))
      (.cons (.of rfl (BitCounter.layout_fits.rejects_repeats.list BitCounter.takes_reader))
        (.cons (.of rfl (.never _)) .nil))

end UpdateFeaturesRequest

/-- **Every message that a client sends may be spelled in every way**, and so may the records in
it. It is decoded to the record that holds what the text gives and the default of everything else,
whatever the order and whatever else is in the text. The graph of a registration and the corpus of
a report may be null. A field that is given twice, at whatever depth, fails the text. -/
theorem messages_accept_every_spelling :
    GraphNode.layout.Accepts GraphNode.form.reader GraphNode.Spelled ∧
    GraphFunction.layout.Accepts GraphFunction.form.reader GraphFunction.Spelled ∧
    StructureGraph.layout.Accepts StructureGraph.form.reader StructureGraph.Spelled ∧
    BitCounter.layout.Accepts BitCounter.form.reader BitCounter.Spelled ∧
    CreateFuzzerRequest.layout.Accepts CreateFuzzerRequest.form.reader
      CreateFuzzerRequest.Spelled ∧
    UpdateFeaturesRequest.layout.Accepts UpdateFeaturesRequest.form.reader
      UpdateFeaturesRequest.Spelled ∧
    CreateFuzzerRequest.layout.AcceptsNull CreateFuzzerRequest.form.reader
      CreateFuzzerRequest.graphField ∧
    UpdateFeaturesRequest.layout.AcceptsNull UpdateFeaturesRequest.form.reader
      UpdateFeaturesRequest.corpusField := by
  refine ⟨GraphNode.layout_fits.accepts, GraphFunction.layout_fits.accepts,
    StructureGraph.layout_fits.accepts, BitCounter.layout_fits.accepts,
    CreateFuzzerRequest.layout_fits.accepts, UpdateFeaturesRequest.layout_fits.accepts,
    CreateFuzzerRequest.layout_fits.acceptsNull ?_ fun _ => .none,
    UpdateFeaturesRequest.layout_fits.acceptsNull ?_ fun _ => .none⟩
  · exact List.mem_cons_of_mem _ List.mem_cons_self
  · exact List.mem_cons_of_mem _ (List.mem_cons_of_mem _ List.mem_cons_self)

end NodeCoverage
