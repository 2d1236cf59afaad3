import NodeCoverage.Proofs.AnyInteger
import NodeCoverage.Proofs.Decimal
import NodeCoverage.Proofs.Finality
import NodeCoverage.Proofs.Fragment
import NodeCoverage.Proofs.WireShape

/-!
# One wrong value rejects the whole body

A body is read as a whole before anything is done with it. The first value of the wrong kind is
reported with the way to it, whatever the hits or nodes before it are and whatever comes after it,
and the service is as it was.

Results:
* `RecordForm.stands`: a text that is taken as a record by itself is one in front of anything;
* `WrongValue.fails_natural`: a value of the wrong kind fails the reader of a word;
* `counterAt_of_texts`, `successorAt_of_texts`: bodies up to a counter and up to a successor;
* **`Http.wrong_value_rejects`**: what the router answers to a wrong value there.
-/

namespace NodeCoverage

open Json
open Text (utf8)

namespace Json

/-! ## Texts that a reader reads -/

section Texts

variable {α R : Type} {reader : Reader α} {form : RecordForm R} {a : R} {e s t : List UInt8}

/-- The texts that the reader reads, whatever blanks stand before them. -/
def Reader.Texts (reader : Reader α) : Spelling α :=
  fun s a t => StartsValue s ∧ ∀ r, Blanks r s → reader.read r = .ok (a, t)

theorem Reader.takes_texts (reader : Reader α) : reader.Takes reader.Texts where
  starts h := h.1
  reads h _ hr := h.2 _ hr

/-- A head is only read off a text that starts a value. -/
theorem startsValue_of_readHead {p : Head × List UInt8} (h : readHead s = .ok p) :
    StartsValue (skipBlank s) := by
  unfold readHead at h
  cases hs : skipBlank s with
  | nil =>
    rw [hs] at h
    cases h
  | cons b r =>
    rw [hs] at h
    refine ⟨?_, ?_⟩
    · have hnot := List.head?_dropWhile_not isBlank s
      rw [show s.dropWhile isBlank = b :: r from hs] at hnot
      exact hnot
    · rintro rfl
      cases h

/-- **A text that is taken as a whole** stands for its record in front of anything. -/
theorem RecordForm.stands (hform : ∀ m ∈ form.members, m.update.Settles)
    (he : form.reader.decode e = .ok a) : Stands form.reader.Texts e a := by
  obtain ⟨r, hblank, hread⟩ :=
    (form.settles_reader hform).exists_read_append (endsClosed_reader hform) he
  intro t
  refine ⟨skipBlank (e ++ t), r ++ t, blanks_skipBlank _, ⟨?_, fun r' hr' => ?_⟩, ?_⟩
  · have hlong := hread t
    rw [read_reader] at hlong
    obtain ⟨p, hhead, -⟩ := bind_eq_ok.mp hlong
    exact startsValue_of_readHead (mapError_eq_ok.mp hhead)
  · have hlong := hread t
    have hhead : readHead r' = readHead (e ++ t) := by
      unfold readHead
      rw [hr'.skipBlank_eq, ← (blanks_skipBlank (e ++ t)).skipBlank_eq]
    rw [read_reader, hhead, ← read_reader]
    exact hlong
  · obtain ⟨p, hp, hall⟩ := (blanks_of_skipBlank hblank).prefixed
    rw [List.append_nil] at hp
    rw [hp]
    exact hall t

end Texts

/-! ## Values of the wrong kind -/

/-- At the text starts a value that is not the number that is expected: one of another type, of
which nothing but the start counts if it is a list or a record, or an integer of `wrong`. -/
inductive WrongValue (expected : String) (wrong : Int → Prop) : List UInt8 → Mismatch → Prop
  | null {t : List UInt8} :
      WrongValue expected wrong (0x6E :: 0x75 :: 0x6C :: 0x6C :: t) (.wrongType .null expected)
  | yes {t : List UInt8} :
      WrongValue expected wrong (0x74 :: 0x72 :: 0x75 :: 0x65 :: t)
        (.wrongType (.boolean true) expected)
  | no {t : List UInt8} :
      WrongValue expected wrong (0x66 :: 0x61 :: 0x6C :: 0x73 :: 0x65 :: t)
        (.wrongType (.boolean false) expected)
  | text {s t : List UInt8} {text : String} : StringText s text t →
      WrongValue expected wrong s (.wrongType (.text text) expected)
  | list {t : List UInt8} : WrongValue expected wrong (0x5B :: t) (.wrongType .list expected)
  | record {t : List UInt8} : WrongValue expected wrong (0x7B :: t) (.wrongType .record expected)
  | integer {s t : List UInt8} {n : Int} : Integer s n t → Stops t → wrong n →
      WrongValue expected wrong s (.wrongValue (.integer n) expected)

section WrongValues

variable {α : Type} {expected : String} {wrong : Int → Prop} {ofWord? : UInt64 → Option α}
  {w : List UInt8} {m : Mismatch}

theorem WrongValue.startsValue (h : WrongValue expected wrong w m) : StartsValue w := by
  cases h with
  | text hs => exact takes_text.starts hs
  | integer hn _ _ => exact hn.startsValue
  | _ => exact ⟨rfl, by decide⟩

/-- **A value of the wrong kind** fails the reader of a word, with what was found. -/
theorem WrongValue.fails_natural (h : WrongValue expected wrong w m)
    (hwrong : ∀ n, wrong n → n ≠ 0 ∧ -2 ^ 63 ≤ n ∧ n < 2 ^ 64 ∧
      ∀ word : UInt64, (word.toNat : Int) = n → ofWord? word = none) :
    (Reader.natural expected ofWord?).Fails w ⟨.mismatched m, []⟩ := by
  cases h with
  | integer hn ht hw =>
    obtain ⟨hne, hlow, hhigh, hnone⟩ := hwrong _ hw
    have hfails : (Reader.natural expected ofWord?).Fails _ _ :=
      (hn.decimal hne).fails_natural ht hnone
    rw [refusal, if_pos ⟨hlow, hhigh⟩] at hfails
    exact hfails
  | text hs =>
    intro r hr
    obtain ⟨hc⟩ := hs
    simp only [Reader.natural, Reader.ofHead, readHead_text hr hc, String.ofList_toList, mismatch]
    rfl
  | _ =>
    intro r hr
    simp only [Reader.natural, Reader.ofHead, readHead_eq hr rfl]
    rfl

/-- An integer that is no counter, and fits 64 bits. -/
def NoCounter (n : Int) : Prop :=
  -2 ^ 63 ≤ n ∧ n < 0 ∨ 2 ^ 32 ≤ n ∧ n < 2 ^ 64

/-- An integer that is no node, and fits 64 bits. -/
def NoNode (n : Int) : Prop :=
  -2 ^ 63 ≤ n ∧ n < 0

theorem WrongValue.fails_uint32 (h : WrongValue "u32" NoCounter w m) :
    Reader.uint32.Fails w ⟨.mismatched m, []⟩ := by
  refine h.fails_natural fun n hn => ?_
  unfold NoCounter at hn
  refine ⟨by omega, by omega, by omega, fun word hword => if_neg ?_⟩
  unfold UInt32.size
  omega

theorem WrongValue.fails_uint64 (h : WrongValue "u64" NoNode w m) :
    Reader.uint64.Fails w ⟨.mismatched m, []⟩ := by
  refine h.fails_natural fun n hn => ?_
  unfold NoNode at hn
  refine ⟨by omega, hn.1, by omega, fun word hword => ?_⟩
  omega

end WrongValues

end Json

/-! ## Where the value is -/

/-- At `w` starts the value of the counter of hit `i`, in the body of a report. -/
def CounterAt (i : Nat) (body w : List UInt8) : Prop :=
  ∃ s, Blanks body s ∧ Place .halfWord UpdateFeaturesRequest.shape s
    [.field "bit_counters", .index i, .field "counter"] w

/-- At `w` starts the value of successor `j` of node `i`, in the body of a registration. -/
def SuccessorAt (i j : Nat) (body w : List UInt8) : Prop :=
  ∃ s, Blanks body s ∧ Place .word CreateFuzzerRequest.shape s
    [.field "structure_graph", .field "nodes", .index i, .field "successors", .index j] w

section Where

variable {es ns xs : List (List UInt8)} {k w : List UInt8}

/-- A report up to the counter of a hit: the texts of the hits before it, and its index. -/
theorem counterAt_of_texts (hes : ∀ e ∈ es, ∃ b, BitCounter.form.reader.decode e = .ok b)
    (hk : ∃ i, Whole Int128Text k i) :
    CounterAt es.length (utf8 "\x7b\"bit_counters\":[" ++ (es.flatMap (· ++ [0x2C]) ++
      (utf8 "\x7b\"node_index\":" ++ (k ++ (utf8 ",\"counter\":" ++ w))))) w := by
  have hopen : utf8 "\x7b\"bit_counters\":[" = 0x7B :: (keyText "bit_counters" ++ [0x5B]) := by
    decide +kernel
  have hindex : utf8 "\x7b\"node_index\":" = 0x7B :: keyText "node_index" := by decide +kernel
  have hcounter : utf8 ",\"counter\":" = 0x2C :: keyText "counter" := by decide +kernel
  obtain ⟨i, hi⟩ := hk
  have hhit := Place.second_member BitCounter.layout_fits BitCounter.layout_isLocal
    BitCounter.counter_hasShape List.mem_cons_self (by decide) (hi.stands int128Text_isLocal)
    (.here (h := w))
  have hlist := hhit.later_item BitCounter.form.reader.takes_texts fun e he =>
    (hes e he).imp fun _ => BitCounter.form.stands BitCounter.settles
  have hreport := Place.first_member UpdateFeaturesRequest.layout_fits
    UpdateFeaturesRequest.layout_isLocal UpdateFeaturesRequest.bitCounters_hasShape hlist
  refine ⟨_, ?_, hreport⟩
  rw [hopen, hindex, hcounter]
  simpa using .nil

/-- A registration up to a successor of a node: the texts of the nodes before it, and of its
successors before this one. -/
theorem successorAt_of_texts (hns : ∀ n ∈ ns, ∃ a, GraphNode.form.reader.decode n = .ok a)
    (hxs : ∀ x ∈ xs, ∃ a, Whole WordText x a) :
    SuccessorAt ns.length xs.length (utf8 "\x7b\"structure_graph\":\x7b\"nodes\":[" ++
      (ns.flatMap (· ++ [0x2C]) ++ (utf8 "\x7b\"successors\":[" ++
        (xs.flatMap (· ++ [0x2C]) ++ w)))) w := by
  have hopen : utf8 "\x7b\"structure_graph\":\x7b\"nodes\":[" =
      0x7B :: (keyText "structure_graph" ++ 0x7B :: (keyText "nodes" ++ [0x5B])) := by
    decide +kernel
  have hsuccessors : utf8 "\x7b\"successors\":[" = 0x7B :: (keyText "successors" ++ [0x5B]) := by
    decide +kernel
  have hlist := (Place.here (I := .word) (h := w)).later_item takes_uint64 fun x hx =>
    (hxs x hx).imp fun _ h => h.stands wordText_isLocal
  have hnode := Place.first_member GraphNode.layout_fits GraphNode.layout_isLocal
    GraphNode.successors_hasShape hlist
  have hnodes := hnode.later_item GraphNode.form.reader.takes_texts fun n hn =>
    (hns n hn).imp fun _ => GraphNode.form.stands GraphNode.settles
  have hgraph := Place.first_member StructureGraph.layout_fits StructureGraph.layout_isLocal
    StructureGraph.nodes_hasShape hnodes
  have hrequest := Place.first_member CreateFuzzerRequest.layout_fits
    CreateFuzzerRequest.layout_isLocal CreateFuzzerRequest.graph_hasShape
    (.some (by simp [NotNull]) hgraph)
  refine ⟨_, ?_, hrequest⟩
  rw [hopen, hsuccessors]
  simpa using .nil

end Where

/-! ## What the router answers -/

namespace Http

/-- The response to a body with a wrong value at the place. -/
def wrongAt (place : String) (m : Mismatch) : Response :=
  .failed 400 "INVALID_ARGUMENT"
    ("Invalid request body: Failed to deserialize the JSON body into the target type: " ++
      place ++ ": " ++ m.message)

theorem unreadable_mismatched (name : String) (path : List Segment) (m : Mismatch) :
    unreadable ⟨.mismatched m, .field name :: path⟩ =
      wrongAt (Segment.render (.field name :: path)) m := by
  have hlocated : (Failure.mk (.mismatched m) (.field name :: path)).located =
      Segment.render (.field name :: path) ++ ": " ++ m.message := rfl
  have hopening :
      "Invalid request body: Failed to deserialize the JSON body into the target type: " =
        "Invalid request body: " ++
          "Failed to deserialize the JSON body into the target type: " := by
    decide +kernel
  simp only [unreadable, wrongAt, Rejection.message, Cause.kind, hlocated, hopening,
    String.append_assoc]

theorem render_counter (i : Nat) :
    Segment.render [.field "bit_counters", .index i, .field "counter"] =
      s!"bit_counters[{i}].counter" := by
  have hopen : "bit_counters[" = "bit_counters" ++ "[" := by decide +kernel
  have hclose : "].counter" = "]" ++ ("." ++ ("counter" ++ "")) := by decide +kernel
  simp only [Segment.render, Segment.render.renderMore, toString, hopen, hclose,
    String.append_assoc]

theorem render_successor (i j : Nat) :
    Segment.render [.field "structure_graph", .field "nodes", .index i, .field "successors",
      .index j] = s!"structure_graph.nodes[{i}].successors[{j}]" := by
  have hopen : "structure_graph.nodes[" = "structure_graph" ++ ("." ++ ("nodes" ++ "[")) := by
    decide +kernel
  have hmiddle : "].successors[" = "]" ++ ("." ++ ("successors" ++ "[")) := by decide +kernel
  simp only [Segment.render, Segment.render.renderMore, toString, hopen, hmiddle,
    String.append_assoc, String.append_empty]

section Answers

variable {r : Request} {body w : List UInt8} {m : Mismatch} {i j : Nat}

theorem handle_counterAt (h : Submits r updatePath) (hat : CounterAt i r.body w)
    (hw : WrongValue "u32" NoCounter w m) (s : Service) :
    (handle s r).state = s ∧
      (handle s r).answer = .value (wrongAt s!"bit_counters[{i}].counter" m) := by
  obtain ⟨start, hblanks, hplace⟩ := hat
  have hdecode : UpdateFeaturesRequest.form.reader.decode r.body =
      .error ⟨.mismatched m, [.field "bit_counters", .index i, .field "counter"]⟩ :=
    (hplace.fails hw.startsValue hw.fails_uint32).2.decode_eq hblanks
  have hread : Reading r (.rejected (.unreadable _)) :=
    .updateRejected h.path_eq h.method_eq (.unreadable h.saysJson h.length_le hdecode)
  obtain ⟨hstate, hanswer⟩ := hread.handle_rejected s
  refine ⟨hstate, ?_⟩
  rw [← render_counter, ← unreadable_mismatched]
  exact hanswer

theorem handle_successorAt (h : Submits r createPath) (hat : SuccessorAt i j r.body w)
    (hw : WrongValue "u64" NoNode w m) (s : Service) :
    (handle s r).state = s ∧
      (handle s r).answer =
        .value (wrongAt s!"structure_graph.nodes[{i}].successors[{j}]" m) := by
  obtain ⟨start, hblanks, hplace⟩ := hat
  have hdecode : CreateFuzzerRequest.form.reader.decode r.body =
      .error ⟨.mismatched m, [.field "structure_graph", .field "nodes", .index i,
        .field "successors", .index j]⟩ :=
    (hplace.fails hw.startsValue hw.fails_uint64).2.decode_eq hblanks
  have hread : Reading r (.rejected (.unreadable _)) :=
    .createRejected h.path_eq h.method_eq (.unreadable h.saysJson h.length_le hdecode)
  obtain ⟨hstate, hanswer⟩ := hread.handle_rejected s
  refine ⟨hstate, ?_⟩
  rw [← render_successor, ← unreadable_mismatched]
  exact hanswer

end Answers

/-- **One wrong value rejects the whole body.** If the value of some counter in a report is of
another type than a number, or an integer of 64 bits that is no counter, the answer names what was
found and the way to it, and the service is as it was: none of the hits before it counts. The same
holds of the successors of the nodes of a registration. What comes after the wrong value does not
matter. The place may be reached in any spelling of what is before it, and in particular past any
texts of hits, or of nodes and successors, that are taken by themselves. -/
theorem wrong_value_rejects (s : Service) :
    (∀ (r : Request) (i : Nat) (w : List UInt8) (m : Mismatch), Submits r updatePath →
      CounterAt i r.body w → WrongValue "u32" NoCounter w m →
      (handle s r).state = s ∧
        (handle s r).answer = .value (wrongAt s!"bit_counters[{i}].counter" m)) ∧
    (∀ (r : Request) (i j : Nat) (w : List UInt8) (m : Mismatch), Submits r createPath →
      SuccessorAt i j r.body w → WrongValue "u64" NoNode w m →
      (handle s r).state = s ∧
        (handle s r).answer =
          .value (wrongAt s!"structure_graph.nodes[{i}].successors[{j}]" m)) ∧
    (∀ (es : List (List UInt8)) (k w : List UInt8),
      (∀ e ∈ es, ∃ b, BitCounter.form.reader.decode e = .ok b) →
      (∃ i, Whole Int128Text k i) →
      CounterAt es.length (utf8 "\x7b\"bit_counters\":[" ++ (es.flatMap (· ++ [0x2C]) ++
        (utf8 "\x7b\"node_index\":" ++ (k ++ (utf8 ",\"counter\":" ++ w))))) w) ∧
    (∀ (ns xs : List (List UInt8)) (w : List UInt8),
      (∀ n ∈ ns, ∃ a, GraphNode.form.reader.decode n = .ok a) →
      (∀ x ∈ xs, ∃ a, Whole WordText x a) →
      SuccessorAt ns.length xs.length (utf8 "\x7b\"structure_graph\":\x7b\"nodes\":[" ++
        (ns.flatMap (· ++ [0x2C]) ++ (utf8 "\x7b\"successors\":[" ++
          (xs.flatMap (· ++ [0x2C]) ++ w)))) w) :=
  ⟨fun _ _ _ _ h hat hw => handle_counterAt h hat hw s,
    fun _ _ _ _ _ h hat hw => handle_successorAt h hat hw s,
    fun _ _ _ hes hk => counterAt_of_texts hes hk,
    fun _ _ _ hns hxs => successorAt_of_texts hns hxs⟩

/-- A counter of more than 32 bits in the second hit of a report, and a negative second successor in
the second node of a registration. Neither text goes on as it should. -/
theorem wrong_value_rejects_second :
    let s := Service.ofTracker
      { primaryId := 0, observer := .silent, state := .tracking (.start (.withNodes 2)) }
    let report := post updatePath (utf8 ("\x7b\"bit_counters\":[\x7b\"node_index\":1\x7d," ++
      "\x7b\"node_index\":-7,\"counter\":4294967296#"))
    let registration := post createPath (utf8 ("\x7b\"structure_graph\":\x7b\"nodes\":[" ++
      "\x7b\x7d,\x7b\"successors\":[3,-1#"))
    (handle s report).state = s ∧
      (handle s report).answer =
        .value (wrongAt "bit_counters[1].counter" (.wrongValue (.integer 4294967296) "u32")) ∧
      (handle s registration).state = s ∧
      (handle s registration).answer =
        .value (wrongAt "structure_graph.nodes[1].successors[1]"
          (.wrongValue (.integer (-1)) "u64")) := by
  intro s report registration
  obtain ⟨hreport, hregistration, hcounter, hsuccessor⟩ := wrong_value_rejects s
  have hstops : Stops [0x23] := ⟨rfl, by decide, by decide, by decide⟩
  have hcounterAt : CounterAt 1 report.body (utf8 (writeInt 4294967296) ++ [0x23]) := by
    have htext := hcounter [utf8 "\x7b\"node_index\":1\x7d"] (utf8 (writeInt (-7)) ++ [])
      (utf8 (writeInt 4294967296) ++ [0x23])
      (List.forall_mem_singleton.mpr ⟨{ nodeIndex := { val := 1 } }, by decide +kernel⟩)
      ⟨{ val := -7 }, _, [], .nil, writeInt_integer (-7) [], .nil⟩
    refine Eq.mpr (congrArg (CounterAt 1 · _) ?_) htext
    decide +kernel
  have hsuccessorAt : SuccessorAt 1 1 registration.body (utf8 (writeInt (-1)) ++ [0x23]) := by
    have htext := hsuccessor [utf8 "\x7b\x7d"] [utf8 (writeNat 3) ++ []]
      (utf8 (writeInt (-1)) ++ [0x23])
      (List.forall_mem_singleton.mpr ⟨{}, by decide +kernel⟩)
      (List.forall_mem_singleton.mpr ⟨3, _, [], .nil, writeNat_numeral 3 [], .nil⟩)
    refine Eq.mpr (congrArg (SuccessorAt 1 1 · _) ?_) htext
    decide +kernel
  have hcounterWrong : WrongValue "u32" NoCounter (utf8 (writeInt 4294967296) ++ [0x23])
      (.wrongValue (.integer 4294967296) "u32") :=
    .integer (writeInt_integer _ _) hstops (.inr (by decide))
  have hsuccessorWrong : WrongValue "u64" NoNode (utf8 (writeInt (-1)) ++ [0x23])
      (.wrongValue (.integer (-1)) "u64") :=
    .integer (writeInt_integer _ _) hstops (And.intro (by decide) (by decide))
  have hcounted := hreport report 1 _ _ (submits_post (by decide +kernel)) hcounterAt hcounterWrong
  have hregistered := hregistration registration 1 1 _ _ (submits_post (by decide +kernel))
    hsuccessorAt hsuccessorWrong
  exact ⟨hcounted.1, hcounted.2, hregistered.1, hregistered.2⟩

end Http

end NodeCoverage
