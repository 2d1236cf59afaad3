import NodeCoverage.Proofs.AnyInteger
import NodeCoverage.Proofs.Decimal
import NodeCoverage.Proofs.Fragment
import NodeCoverage.Proofs.WireShape

/-!
# Integers are exact or refused

Whatever integer is written where a message has one, the message either holds exactly this integer
and all else as it was, or it fails at the place of the integer. Nothing wraps and nothing is cut.

Results:
* `Shape.int128_holds`, `Shape.word_holds`, `Shape.halfWord_holds`: which integers the types of the
  wire have, and how they refuse the others;
* `Surrounds.exact`: what a message says with an integer in it;
* **`integers_exact_or_refused`**: the three types together, and where the messages have them.
-/

namespace NodeCoverage

open Json
open Text (utf8)

section Places

variable {β : Type} {M : Shape β} {pre post : List UInt8} {path : List Segment} {n : Int}

theorem Json.Integer.notNull {s t : List UInt8} (h : Integer s n t) : NotNull s := by
  obtain ⟨b, r, rfl, rfl | hb⟩ := h.exists_cons
  · exact nofun
  · exact fun hnull => isDigit_ne hb rfl (Option.some.inj hnull)

/-- The values of the shape are the integers of the range, as `value` says, and an integer that is
none of them is refused. -/
structure Json.Shape.Holds {α : Type} (I : Shape α) (value : α → Int) (range : Int → Prop)
    (refusal : Int → Cause) : Prop where
  exists_value {n : Int} : range n → ∃ a, value a = n
  spells (a : α) (t : List UInt8) : I.spelling (utf8 (writeInt (value a)) ++ t) a t
  refuses {n : Int} {t : List UInt8} : ¬ range n → Stops t →
    I.reader.Fails (utf8 (writeInt n) ++ t) ⟨refusal n, []⟩

theorem Json.Shape.int128_holds :
    Shape.int128.Holds (·.val) Int128.Fits fun _ => .malformed .numberOutOfRange where
  exists_value hn := hn.exists_val_eq
  spells i t := writeInt_integer i.val t
  refuses hn ht := (writeInt_integer _ _).fails_tooWide ht hn

theorem Json.Shape.word_holds :
    Shape.word.Holds (fun w => w.toNat) (fun n => 0 ≤ n ∧ n < 2 ^ 64) (refusal "u64") where
  exists_value {n} hn := by
    refine ⟨n.toNat.toUInt64, ?_⟩
    rw [UInt64.toNat_ofNat_of_lt' (by unfold UInt64.size; omega)]
    omega
  spells w t := writeNat_numeral w.toNat t
  refuses hn ht := (writeInt_decimal _ _).fails_uint64 ht hn

theorem Json.Shape.halfWord_holds :
    Shape.halfWord.Holds (fun w => w.toNat) (fun n => 0 ≤ n ∧ n < 2 ^ 32) (refusal "u32") where
  exists_value {n} hn := by
    refine ⟨n.toNat.toUInt32, ?_⟩
    rw [UInt32.toNat_ofNat_of_lt' (by unfold UInt32.size; omega)]
    omega
  spells w t := writeNat_numeral w.toNat t
  refuses hn ht := (writeInt_decimal _ _).fails_uint32 ht hn

/-- **An integer in its place** is in the message if it is one of those that are expected there,
and is refused otherwise. -/
theorem Json.Surrounds.exact {α : Type} {I : Shape α} {value : α → Int} {range : Int → Prop}
    {refusal : Int → Cause} {fill : α → β} (h : Surrounds I M pre post path fill)
    (hI : I.Holds value range refusal) (n : Int) :
    (range n → ∃ a, value a = n ∧
      M.reader.decode (pre ++ (utf8 (writeInt n) ++ post)) = .ok (fill a)) ∧
    (¬ range n →
      M.reader.decode (pre ++ (utf8 (writeInt n) ++ post)) = .error ⟨refusal n, path⟩) := by
  have hint := writeInt_integer n post
  refine ⟨fun hn => ?_, fun hn => ?_⟩
  · obtain ⟨a, rfl⟩ := hI.exists_value hn
    exact ⟨a, rfl, h.decode_eq hint.notNull (hI.spells a post)⟩
  · rw [h.decode_eq_error hint.notNull hint.startsValue (hI.refuses hn h.stops), List.append_nil]

end Places

/-- **Integers are exact or refused.** Let the texts `pre` and `post` be a message around the place
of an integer. Whatever integer is written there, the message has exactly this integer in the place
and is otherwise what it was, if the type that is expected there has this integer; and if not, it
fails in the place. An integer that does not fit 128 bits is then out of range. One that is no word
is found for what it is if it fits 64 bits, signed or not, and as a floating-point number otherwise;
from `Double.decimalLimit` on it is out of range as well. -/
theorem integers_exact_or_refused :
    (∀ {β : Type} (M : Shape β) (pre post : List UInt8) (path : List Segment),
      (∀ fill, Surrounds .int128 M pre post path fill → Function.Injective fill ∧ ∀ n : Int,
        (-2 ^ 127 ≤ n ∧ n < 2 ^ 127 → ∃ i : Int128, i.val = n ∧
          M.reader.decode (pre ++ (utf8 (writeInt n) ++ post)) = .ok (fill i)) ∧
        (¬(-2 ^ 127 ≤ n ∧ n < 2 ^ 127) →
          M.reader.decode (pre ++ (utf8 (writeInt n) ++ post)) =
            .error ⟨.malformed .numberOutOfRange, path⟩)) ∧
      (∀ fill, Surrounds .word M pre post path fill → Function.Injective fill ∧ ∀ n : Int,
        (0 ≤ n ∧ n < 2 ^ 64 → ∃ w : UInt64, (w.toNat : Int) = n ∧
          M.reader.decode (pre ++ (utf8 (writeInt n) ++ post)) = .ok (fill w)) ∧
        (¬(0 ≤ n ∧ n < 2 ^ 64) →
          M.reader.decode (pre ++ (utf8 (writeInt n) ++ post)) =
            .error ⟨refusal "u64" n, path⟩)) ∧
      (∀ fill, Surrounds .halfWord M pre post path fill → Function.Injective fill ∧ ∀ n : Int,
        (0 ≤ n ∧ n < 2 ^ 32 → ∃ w : UInt32, (w.toNat : Int) = n ∧
          M.reader.decode (pre ++ (utf8 (writeInt n) ++ post)) = .ok (fill w)) ∧
        (¬(0 ≤ n ∧ n < 2 ^ 32) →
          M.reader.decode (pre ++ (utf8 (writeInt n) ++ post)) =
            .error ⟨refusal "u32" n, path⟩))) ∧
    (CreateFuzzerRequest.layout.HasShape CreateFuzzerRequest.form
        CreateFuzzerRequest.fuzzerIdField .int128 ∧
      UpdateFeaturesRequest.layout.HasShape UpdateFeaturesRequest.form
        UpdateFeaturesRequest.fuzzerIdField .int128 ∧
      BitCounter.layout.HasShape BitCounter.form BitCounter.nodeIndexField .int128) ∧
    (UpdateFeaturesRequest.layout.HasShape UpdateFeaturesRequest.form
        UpdateFeaturesRequest.corpusField (Shape.word.optional fun _ _ _ => WordText.ne_null) ∧
      GraphNode.layout.HasShape GraphNode.form GraphNode.predecessorsField (.list .word) ∧
      GraphNode.layout.HasShape GraphNode.form GraphNode.successorsField (.list .word) ∧
      GraphFunction.layout.HasShape GraphFunction.form GraphFunction.nodeIndicesField
        (.list .word)) ∧
    BitCounter.layout.HasShape BitCounter.form BitCounter.counterField .halfWord := by
  refine ⟨fun M pre post path => ⟨?_, ?_, ?_⟩, ?_⟩
  · exact fun fill h => ⟨h.fill_injective, h.exact Shape.int128_holds⟩
  · exact fun fill h => ⟨h.fill_injective, h.exact Shape.word_holds⟩
  · exact fun fill h => ⟨h.fill_injective, h.exact Shape.halfWord_holds⟩
  · exact ⟨⟨CreateFuzzerRequest.fuzzerId_hasShape, UpdateFeaturesRequest.fuzzerId_hasShape,
        BitCounter.nodeIndex_hasShape⟩,
      ⟨UpdateFeaturesRequest.corpus_hasShape, GraphNode.predecessors_hasShape,
        GraphNode.successors_hasShape, GraphFunction.nodeIndices_hasShape⟩,
      BitCounter.counter_hasShape⟩

/-! ## At the limits -/

/-- A report of one hit, around a field of the hit. -/
theorem surrounds_hit {f : RecordField BitCounter} {I : Shape f.Value}
    (hshape : BitCounter.layout.HasShape BitCounter.form f I) :
    Surrounds I UpdateFeaturesRequest.shape
      (0x7B :: (keyText "bit_counters" ++ 0x5B :: 0x7B :: keyText f.name)) [0x7D, 0x5D, 0x7D]
      [.field "bit_counters", .index 0, .field f.name]
      fun a => { bitCounters := [f.set a {}] } := by
  have hhere : Hole I I [] [] [] [0x7D, 0x5D, 0x7D] [0x7D, 0x5D, 0x7D] id := .here
  have hhit := Hole.only_member BitCounter.layout_fits BitCounter.layout_isLocal hshape hhere
  have hreport := Hole.only_member UpdateFeaturesRequest.layout_fits
    UpdateFeaturesRequest.layout_isLocal UpdateFeaturesRequest.bitCounters_hasShape
    (.item .nil (.first .nil) hhit .nil .nil)
  exact .intro (by simpa using .nil) hreport .nil

/-- A registration of one node, around the second of its successors. -/
theorem surrounds_successor : Surrounds .word CreateFuzzerRequest.shape
    (0x7B :: (keyText "structure_graph" ++ 0x7B :: (keyText "nodes" ++ 0x5B :: 0x7B ::
      (keyText "successors" ++ [0x5B, 0x33, 0x2C]))))
    [0x5D, 0x7D, 0x5D, 0x7D, 0x7D]
    [.field "structure_graph", .field "nodes", .index 0, .field "successors", .index 1]
    fun w => { structureGraph := some { nodes := [{ successors := [3, w] }] } } := by
  have hthree : WordText [0x33, 0x2C] 3 [0x2C] := writeNat_numeral 3 [0x2C]
  have hlist : Hole .word Shape.word.list [0x5B, 0x33, 0x2C] [.index 1] []
      [0x5D, 0x7D, 0x5D, 0x7D, 0x7D] [0x7D, 0x5D, 0x7D, 0x7D] fun w => [3, w] :=
    .item (.cons (.first .nil) hthree .nil) (.next .nil .nil) .here .nil .nil
  have hnode := Hole.only_member GraphNode.layout_fits GraphNode.layout_isLocal
    GraphNode.successors_hasShape hlist
  have hgraph := Hole.only_member StructureGraph.layout_fits StructureGraph.layout_isLocal
    StructureGraph.nodes_hasShape (.item .nil (.first .nil) hnode .nil .nil)
  have hrequest := Hole.only_member CreateFuzzerRequest.layout_fits
    CreateFuzzerRequest.layout_isLocal CreateFuzzerRequest.graph_hasShape
    (.some (by simp [NotNull]) hgraph)
  exact .intro (by simpa using .nil) hrequest .nil

/-- The largest index, successor and counter are read as they are, and the next integer is refused:
as out of range, as a floating-point number, and as an integer that is no counter. -/
theorem integers_exact_or_refused_at_the_limits :
    let hit (n : Int) := UpdateFeaturesRequest.form.reader.decode
      (utf8 ("\x7b\"bit_counters\":[\x7b\"node_index\":" ++ writeInt n ++ "\x7d]\x7d"))
    let counted (n : Int) := UpdateFeaturesRequest.form.reader.decode
      (utf8 ("\x7b\"bit_counters\":[\x7b\"counter\":" ++ writeInt n ++ "\x7d]\x7d"))
    let successor (n : Int) := CreateFuzzerRequest.form.reader.decode
      (utf8 ("\x7b\"structure_graph\":\x7b\"nodes\":[\x7b\"successors\":[3," ++ writeInt n ++
        "]\x7d]\x7d\x7d"))
    (∃ i : Int128, i.val = 2 ^ 127 - 1 ∧
      hit (2 ^ 127 - 1) = .ok { bitCounters := [{ nodeIndex := i }] }) ∧
    hit (2 ^ 127) = .error ⟨.malformed .numberOutOfRange,
      [.field "bit_counters", .index 0, .field "node_index"]⟩ ∧
    (∃ w : UInt64, (w.toNat : Int) = 2 ^ 64 - 1 ∧
      successor (2 ^ 64 - 1) =
        .ok { structureGraph := some { nodes := [{ successors := [3, w] }] } }) ∧
    successor (2 ^ 64) = .error ⟨.mismatched (.wrongType .floating "u64"),
      [.field "structure_graph", .field "nodes", .index 0, .field "successors", .index 1]⟩ ∧
    (∃ w : UInt32, (w.toNat : Int) = 2 ^ 32 - 1 ∧
      counted (2 ^ 32 - 1) = .ok { bitCounters := [{ counter := w }] }) ∧
    counted (2 ^ 32) = .error ⟨.mismatched (.wrongValue (.integer (2 ^ 32)) "u32"),
      [.field "bit_counters", .index 0, .field "counter"]⟩ := by
  intro hit counted successor
  have hclose : utf8 "\x7d]\x7d" = [0x7D, 0x5D, 0x7D] := by decide +kernel
  have hindex := surrounds_hit BitCounter.nodeIndex_hasShape
  have hcounter := surrounds_hit BitCounter.counter_hasShape
  have hindexPre : utf8 "\x7b\"bit_counters\":[\x7b\"node_index\":" =
      0x7B :: (keyText "bit_counters" ++ 0x5B :: 0x7B :: keyText "node_index") := by
    decide +kernel
  have hcounterPre : utf8 "\x7b\"bit_counters\":[\x7b\"counter\":" =
      0x7B :: (keyText "bit_counters" ++ 0x5B :: 0x7B :: keyText "counter") := by
    decide +kernel
  have hsuccessorPre : utf8 "\x7b\"structure_graph\":\x7b\"nodes\":[\x7b\"successors\":[3," =
      0x7B :: (keyText "structure_graph" ++ 0x7B :: (keyText "nodes" ++ 0x5B :: 0x7B ::
        (keyText "successors" ++ [0x5B, 0x33, 0x2C]))) := by
    decide +kernel
  have hsuccessorPost : utf8 "]\x7d]\x7d\x7d" = [0x5D, 0x7D, 0x5D, 0x7D, 0x7D] := by
    decide +kernel
  simp only [hit, counted, successor, Text.utf8_append, List.append_assoc, hclose, hindexPre,
    hcounterPre, hsuccessorPre, hsuccessorPost]
  have hhit := ((integers_exact_or_refused.1 _ _ _ _).1 _ hindex).2
  have hword := ((integers_exact_or_refused.1 _ _ _ _).2.1 _ surrounds_successor).2
  have hcounted := ((integers_exact_or_refused.1 _ _ _ _).2.2 _ hcounter).2
  refine ⟨(hhit (2 ^ 127 - 1)).1 (by decide), (hhit (2 ^ 127)).2 (by decide),
    (hword (2 ^ 64 - 1)).1 (by decide), ?_, (hcounted (2 ^ 32 - 1)).1 (by decide), ?_⟩
  · have hfloating : refusal "u64" (2 ^ 64) = .mismatched (.wrongType .floating "u64") := by
      decide +kernel
    rw [← hfloating]
    exact (hword (2 ^ 64)).2 (by decide)
  · exact (hcounted (2 ^ 32)).2 (by decide)

/-- A node, around its only predecessor. -/
theorem surrounds_predecessor : Surrounds .word GraphNode.shape
    (0x7B :: (keyText "predecessors" ++ [0x5B])) [0x5D, 0x7D] [.field "predecessors", .index 0]
    fun w => { predecessors := [w] } := by
  have hlist : Hole .word Shape.word.list [0x5B] [.index 0] [] [0x5D, 0x7D] [0x7D]
      fun w => [w] :=
    .item .nil (.first .nil) .here .nil .nil
  have hnode := Hole.only_member GraphNode.layout_fits GraphNode.layout_isLocal
    GraphNode.predecessors_hasShape hlist
  exact .intro (by simpa using .nil) hnode .nil

/-- The largest double is an integer, and as an element of a list it is out of range. So not every
integer that is neither a word nor a signed word is found as a floating-point number as long as it
does not exceed the doubles. -/
theorem largest_double_out_of_range :
    let largest : Nat := 2 ^ 1024 - 2 ^ 971
    let node (n : Int) :=
      GraphNode.form.reader.decode (utf8 ("\x7b\"predecessors\":[" ++ writeInt n ++ "]\x7d"))
    Double.round largest = largest ∧ largest < Double.limit ∧
      node largest = .error ⟨.malformed .numberOutOfRange, [.field "predecessors", .index 0]⟩ ∧
      ¬ ∀ n : Nat, 2 ^ 64 ≤ n → n ≤ largest →
        node n = .error ⟨.mismatched (.wrongType .floating "u64"),
          [.field "predecessors", .index 0]⟩ := by
  intro largest node
  have hnode : node largest =
      .error ⟨.malformed .numberOutOfRange, [.field "predecessors", .index 0]⟩ := by
    have hpre : utf8 "\x7b\"predecessors\":[" = 0x7B :: (keyText "predecessors" ++ [0x5B]) := by
      decide +kernel
    have hpost : utf8 "]\x7d" = [0x5D, 0x7D] := by decide +kernel
    have hrefusal : refusal "u64" largest = .malformed .numberOutOfRange := by decide +kernel
    simp only [node, Text.utf8_append, List.append_assoc, hpre, hpost]
    rw [← hrefusal]
    exact (surrounds_predecessor.exact Shape.word_holds largest).2 (by decide +kernel)
  refine ⟨by decide +kernel, by decide +kernel, hnode, fun hall => ?_⟩
  rw [hall largest (by decide +kernel) (Nat.le_refl _)] at hnode
  cases hnode

end NodeCoverage
