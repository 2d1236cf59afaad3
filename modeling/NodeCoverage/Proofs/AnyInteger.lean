import NodeCoverage.Proofs.Gap
import NodeCoverage.Proofs.Transparency

/-!
# Integers of any size on the wire

A client may write any integer as its id or as the index of a node. The wire holds integers of 128
bits: one that fits is read as it is and then compared, one that does not is out of the range of
the reader and rejects the body, where an index that names no node is an error of the tracker.

Results:
* `CreateFuzzerRequest.GivesId`, `UpdateFeaturesRequest.GivesIndex`: bodies around an integer;
* `GivesId.decode_eq`, `GivesIndex.exists_decode_eq`: what such a body decodes to when the integer
  fits;
* `GivesId.exists_decode_eq_error`, `GivesIndex.exists_decode_eq_error`: when it does not;
* **`integers_on_the_wire`**: what the router answers in both cases.
-/

namespace NodeCoverage

open Json
open Text (utf8)

/-- The integer fits into 128 bits. -/
def Int128.Fits (n : Int) : Prop :=
  -Int128.bound ≤ n ∧ n < Int128.bound

theorem Int128.Fits.exists_val_eq {n : Int} (h : Int128.Fits n) : ∃ i : Int128, i.val = n :=
  ⟨⟨n, h.1, h.2⟩, rfl⟩

/-- What the wire says to an integer that does not fit. -/
def tooWide (path : List Segment) : Failure :=
  ⟨.malformed .numberOutOfRange, path⟩

theorem Json.Integer.fails_tooWide {n : Int} {s t : List UInt8} (h : Integer s n t)
    (ht : Stops t) (hn : ¬ Int128.Fits n) : Reader.int128.Fails s (tooWide []) :=
  h.fails_int128 ht (Int128.ofInt?_eq_none_iff.mpr hn)

namespace CreateFuzzerRequest

/-- The field of the client's id. -/
def idField : FieldText CreateFuzzerRequest :=
  .of "fuzzer_id" Int128Text fun i a => { a with fuzzerId := i }

/-- The body gives the integer `n` as the client's id: with an id of 128 bits in the place of it
the body would register that id and the graph. -/
inductive GivesId (n : Int) (graph? : Option StructureGraph) : List UInt8 → Prop
  | intro {segment : Segment} {r s h x t : List UInt8}
      {fill : (CreateFuzzerRequest → CreateFuzzerRequest) → CreateFuzzerRequest} :
      Blanks r s → RecordGap {} fields idField segment s h x t fill → Blanks t [] →
      (∀ i, fill (fun a => { a with fuzzerId := i }) = ⟨i, graph?⟩) → Integer h n x →
      GivesId n graph? r

variable {n : Int} {graph? : Option StructureGraph} {body : List UInt8}

/-- An id that fits is read as it is. -/
theorem GivesId.decode_eq {i : Int128} (h : GivesId i.val graph? body) :
    form.reader.decode body = .ok ⟨i, graph?⟩ := by
  obtain @⟨_, _, _, gap, rest, _, _, hr, hgap, ht, hfill, hn⟩ := h
  have hid : idField.spells gap (fun a => { a with fuzzerId := i }) rest := ⟨i, hn, rfl⟩
  have htext := hgap.fill_text hid
  rw [hfill i] at htext
  exact takes_reader.decode_eq htext hr ht

/-- An id that does not fit rejects the body. -/
theorem GivesId.exists_decode_eq_error (h : GivesId n graph? body) (hn : ¬ Int128.Fits n) :
    ∃ path, form.reader.decode body = .error (tooWide path) := by
  obtain ⟨hr, hgap, -, -, hint⟩ := h
  have hfails := hgap.fails form_reads hint.startsValue (e := tooWide []) <| by
    intro m hm hname
    rcases List.mem_pair.mp hm with rfl | rfl
    · exact (hint.fails_tooWide hgap.stops hn).member _ _
    · exact absurd hname (by decide)
  exact ⟨_, hfails.decode_eq hr⟩

end CreateFuzzerRequest

/-- The field of a hit's index. -/
def BitCounter.indexField : FieldText BitCounter :=
  .of "node_index" Int128Text fun i b => { b with nodeIndex := i }

namespace UpdateFeaturesRequest

/-- The field of the hits. -/
def hitsField : FieldText UpdateFeaturesRequest :=
  .of "bit_counters" (ListText BitCounter.Spelled) fun xs a => { a with bitCounters := xs }

/-- The body gives the integer `n` as the index of its only hit: with an index of 128 bits in the
place of it the body would report that index alone. -/
inductive GivesIndex (n : Int) : List UInt8 → Prop
  | intro {segment segment' : Segment} {r s l b h x y z t : List UInt8}
      {fill : (UpdateFeaturesRequest → UpdateFeaturesRequest) → UpdateFeaturesRequest}
      {fillHit : (BitCounter → BitCounter) → BitCounter} :
      Blanks r s → RecordGap {} fields hitsField segment s (0x5B :: l) z t fill → Blanks t [] →
      Blanks l b → RecordGap {} BitCounter.fields BitCounter.indexField segment' b h x y fillHit →
      Blanks y (0x5D :: z) →
      (∀ i : Int128, (fill fun a =>
        { a with bitCounters := [fillHit fun b => { b with nodeIndex := i }] }).indices =
          [i.val]) →
      Integer h n x → GivesIndex n r

variable {n : Int} {body : List UInt8}

/-- An index that fits is read as it is. -/
theorem GivesIndex.exists_decode_eq {i : Int128} (h : GivesIndex i.val body) :
    ∃ a, form.reader.decode body = .ok a ∧ a.indices = [i.val] := by
  obtain @⟨_, _, _, _, _, _, gap, rest, _, _, _, _, _, hr, hgap, ht, hl, hhit, hend, hfill, hn⟩ := h
  have hindex : BitCounter.indexField.spells gap (fun b => { b with nodeIndex := i }) rest :=
    ⟨i, hn, rfl⟩
  have hlist := ListText.intro (.cons (.first hl) (hhit.fill_text hindex) .nil) hend
  exact ⟨_, takes_reader.decode_eq (hgap.fill_text ⟨_, hlist, rfl⟩) hr ht, hfill i⟩

/-- An index that does not fit rejects the body. -/
theorem GivesIndex.exists_decode_eq_error (h : GivesIndex n body) (hn : ¬ Int128.Fits n) :
    ∃ path, form.reader.decode body = .error (tooWide path) := by
  obtain ⟨hr, hgap, -, hl, hhit, -, -, hint⟩ := h
  -- from the inside out: the index fails the hit, the hit the list, and the list the body
  have hfailsHit := hhit.fails BitCounter.form_reads hint.startsValue (e := tooWide []) <| by
    intro m hm hname
    rcases List.mem_pair.mp hm with rfl | rfl
    · exact (hint.fails_tooWide hhit.stops hn).member _ _
    · exact absurd hname (by decide)
  have hfailsList := hfailsHit.list BitCounter.takes_reader .nil (.first hl) hhit.startsValue
  have hfails := hgap.fails form_reads ⟨rfl, by decide⟩ <| by
    intro m hm hname
    rcases List.mem_cons.mp hm with rfl | hm
    · exact absurd hname (by decide)
    rcases List.mem_pair.mp hm with rfl | rfl
    · exact hfailsList.member _ _
    · exact absurd hname (by decide)
  exact ⟨_, hfails.decode_eq hr⟩

end UpdateFeaturesRequest

/-! ## Bodies that are written for an integer -/

/-- The shortest body that registers an id. -/
def idBody (n : Int) : List UInt8 :=
  utf8 (writeRecord [("fuzzer_id", writeInt n)])

/-- The shortest body that reports an index. -/
def indexBody (n : Int) : List UInt8 :=
  utf8 (writeRecord [("bit_counters", writeList [writeRecord [("node_index", writeInt n)]])])

/-- A record of one field is written around a gap for its value. -/
theorem recordGap_writeRecord {R : Type} {fields : List (FieldText R)} {f : FieldText R}
    (hf : f ∈ fields) (blank : R) (text : String) (t : List UInt8) :
    RecordGap blank fields f (.field f.name) (utf8 (writeRecord [(f.name, text)]) ++ t)
      (utf8 text ++ 0x7D :: t) (0x7D :: t) t fun change => change blank := by
  rw [utf8_writeRecord_append, List.map_singleton, String.intercalate_singleton,
    utf8_memberText_append]
  show RecordGap _ _ _ _ _ _ _ _ fun change =>
    applyAll (([] : List (Given R)) ++ ⟨some f.name, change⟩ :: []) blank
  exact .object .nil (.first .nil) (chars_flatMap_escapeChar _ _) .nil .nil hf .nil .nil
    (List.nodup_singleton _)

theorem givesId_idBody (n : Int) : CreateFuzzerRequest.GivesId n none (idBody n) := by
  have hf : CreateFuzzerRequest.idField ∈ CreateFuzzerRequest.fields := List.mem_cons_self
  have hgap := recordGap_writeRecord hf {} (writeInt n) []
  rw [List.append_nil] at hgap
  exact .intro .nil hgap .nil (fun _ => rfl) (writeInt_integer n _)

theorem givesIndex_indexBody (n : Int) : UpdateFeaturesRequest.GivesIndex n (indexBody n) := by
  have hf : UpdateFeaturesRequest.hitsField ∈ UpdateFeaturesRequest.fields :=
    List.mem_cons_of_mem _ List.mem_cons_self
  have hf' : BitCounter.indexField ∈ BitCounter.fields := List.mem_cons_self
  have hgap := recordGap_writeRecord hf {}
    (writeList [writeRecord [("node_index", writeInt n)]]) []
  rw [utf8_writeList_append, String.intercalate_singleton, List.append_nil] at hgap
  exact .intro .nil hgap .nil .nil (recordGap_writeRecord hf' {} (writeInt n) _) .nil
    (fun _ => rfl) (writeInt_integer n _)

/-! ## What the router answers -/

namespace Http

/-- The request posts a body to the path as JSON, and the router takes bodies of its length. -/
structure Submits (r : Request) (path : String) : Prop where
  method_eq : r.method = "POST"
  path_eq : r.target.path = path
  saysJson : r.SaysJson
  length_le : r.body.length ≤ 2097152

theorem submits_post {path : String} {body : List UInt8} (h : body.length ≤ 2097152) :
    Submits (post path body) path :=
  ⟨rfl, rfl, saysJson_post path body, h⟩

theorem givesId_post (n : Int) :
    CreateFuzzerRequest.GivesId n none (post createPath (idBody n)).body :=
  givesId_idBody n

theorem givesIndex_post (n : Int) :
    UpdateFeaturesRequest.GivesIndex n (post updatePath (indexBody n)).body :=
  givesIndex_indexBody n

/-- The response to a body that cannot be read. -/
def unreadable (f : Failure) : Response :=
  .failed 400 "INVALID_ARGUMENT" ("Invalid request body: " ++ (Rejection.unreadable f).message)

variable {s : Service} {r : Request} {n : Int}

/-- A registration of an id that fits is acknowledged, and counts if it is the primary id. -/
theorem handle_givesId {i : Int128} {graph? : Option StructureGraph} (h : Submits r createPath)
    (hbody : CreateFuzzerRequest.GivesId i.val graph? r.body) (s : Service) :
    (handle s r).answer = .value (.json 200 "{}") ∧
      (handle s r).state.tracker = s.tracker.step (.register i.val (graph?.getD {})) := by
  have hread : Reading r (.create ⟨i, graph?⟩) :=
    .create h.path_eq h.method_eq (.taken h.saysJson h.length_le hbody.decode_eq)
  obtain ⟨hstate, hanswer⟩ := hread.handle_create s
  rw [hstate, hanswer, s.answer_createFuzzer, Answer.map, ofResult_ok]
  exact ⟨rfl, s.tracker_createFuzzer _⟩

/-- A registration of an id that does not fit is rejected. -/
theorem handle_givesId_tooWide {graph? : Option StructureGraph} (h : Submits r createPath)
    (hbody : CreateFuzzerRequest.GivesId n graph? r.body) (hn : ¬ Int128.Fits n) (s : Service) :
    (handle s r).state = s ∧
      ∃ path, (handle s r).answer = .value (unreadable (tooWide path)) := by
  obtain ⟨path, hdecode⟩ := hbody.exists_decode_eq_error hn
  have hread : Reading r (.rejected (.unreadable (tooWide path))) :=
    .createRejected h.path_eq h.method_eq (.unreadable h.saysJson h.length_le hdecode)
  obtain ⟨hstate, hanswer⟩ := hread.handle_rejected s
  exact ⟨hstate, path, hanswer⟩

/-- A report of one index that fits is answered by the tracker. -/
theorem handle_givesIndex {i : Int128} {c : Coverage} (h : Submits r updatePath)
    (hbody : UpdateFeaturesRequest.GivesIndex i.val r.body) (hc : s.tracker.state = .tracking c)
    (ho : s.tracker.observer.NeverPanics) :
    (handle s r).answer = .value (
      if InGraph c.total i.val then .json 200 "{}"
      else .failed 400 "OUT_OF_RANGE" (BatchError.indexOutOfRange i.val c.total).message) := by
  obtain ⟨a, hdecode, hindices⟩ := hbody.exists_decode_eq
  have hread : Reading r (.update a) :=
    .update h.path_eq h.method_eq (.taken h.saysJson h.length_le hdecode)
  rw [(hread.handle_update s).2, Service.answer_updateFeatures ho, hc, reply, replyTo, hindices]
  by_cases hin : InGraph c.total i.val
  · have hnone : firstOutside? c.total [i.val] = none := by simp [firstOutside?, hin]
    rw [if_pos hin, hnone, ← ofResult_ok]
    rfl
  · have hsome : firstOutside? c.total [i.val] = some i.val := by simp [firstOutside?, hin]
    rw [if_neg hin, hsome]
    rfl

/-- A report of an index that does not fit is rejected. -/
theorem handle_givesIndex_tooWide (h : Submits r updatePath)
    (hbody : UpdateFeaturesRequest.GivesIndex n r.body) (hn : ¬ Int128.Fits n) (s : Service) :
    (handle s r).state = s ∧
      ∃ path, (handle s r).answer = .value (unreadable (tooWide path)) := by
  obtain ⟨path, hdecode⟩ := hbody.exists_decode_eq_error hn
  have hread : Reading r (.rejected (.unreadable (tooWide path))) :=
    .updateRejected h.path_eq h.method_eq (.unreadable h.saysJson h.length_le hdecode)
  obtain ⟨hstate, hanswer⟩ := hread.handle_rejected s
  exact ⟨hstate, path, hanswer⟩

/-- **What the router answers to an integer of any size.** A body that gives the integer `n` as the
id of a client is acknowledged if `n` fits into 128 bits, and starts over with its graph iff `n` is
the primary id. A body that gives `n` as the only index of a report is acknowledged if `n` names a
node of the graph, and otherwise fails with its own code if `n` fits. In both cases an integer that
does not fit is out of the range of the reader, and the service is not reached. -/
theorem integers_on_the_wire (s : Service) (n : Int) :
    (∀ r graph?, Submits r createPath → CreateFuzzerRequest.GivesId n graph? r.body →
      (Int128.Fits n → (handle s r).answer = .value (.json 200 "{}") ∧
        (n = (s.tracker.primaryId.toNat : Int) →
          (handle s r).state.tracker.state = .tracking (.start (graph?.getD {}))) ∧
        (n ≠ (s.tracker.primaryId.toNat : Int) → (handle s r).state.tracker = s.tracker)) ∧
      (¬ Int128.Fits n → (handle s r).state = s ∧
        ∃ path, (handle s r).answer = .value (unreadable (tooWide path)))) ∧
    ∀ r c, Submits r updatePath → UpdateFeaturesRequest.GivesIndex n r.body →
      s.tracker.state = .tracking c → s.tracker.observer.NeverPanics →
      (Int128.Fits n → (handle s r).answer = .value (
        if InGraph c.total n then .json 200 "{}"
        else .failed 400 "OUT_OF_RANGE" (BatchError.indexOutOfRange n c.total).message)) ∧
      (¬ Int128.Fits n → (handle s r).state = s ∧
        ∃ path, (handle s r).answer = .value (unreadable (tooWide path))) := by
  constructor
  · intro r graph? h hbody
    refine ⟨fun hn => ?_, fun hn => handle_givesId_tooWide h hbody hn s⟩
    obtain ⟨i, rfl⟩ := hn.exists_val_eq
    obtain ⟨hanswer, htracker⟩ := handle_givesId h hbody s
    refine ⟨hanswer, fun hid => ?_, fun hid => ?_⟩
    · rw [htracker, hid, Tracker.step_register_primary]
    · rw [htracker, Tracker.step_register_of_ne hid]
  · intro r c h hbody hc ho
    refine ⟨fun hn => ?_, fun hn => handle_givesIndex_tooWide h hbody hn s⟩
    obtain ⟨i, rfl⟩ := hn.exists_val_eq
    exact handle_givesIndex h hbody hc ho

/-- The largest index that fits is answered with its own code, on a graph of two nodes. -/
theorem integers_on_the_wire_largest :
    let s := Service.ofTracker
      { primaryId := 0, observer := .silent, state := .tracking (.start (.withNodes 2)) }
    let n : Int := Int128.bound - 1
    (handle s (post createPath (idBody n))).answer = .value (.json 200 "{}") ∧
      (handle s (post updatePath (indexBody n))).answer =
        .value (.failed 400 "OUT_OF_RANGE" (BatchError.indexOutOfRange n 2).message) := by
  intro s n
  have hfits : Int128.Fits n := by
    unfold Int128.Fits
    decide
  have hsubmitsId : Submits (post createPath (idBody n)) createPath :=
    submits_post (by decide +kernel)
  have hsubmitsIndex : Submits (post updatePath (indexBody n)) updatePath :=
    submits_post (by decide +kernel)
  obtain ⟨hcreate, hupdate⟩ := integers_on_the_wire s n
  obtain ⟨hid, -⟩ := hcreate _ none hsubmitsId (givesId_post n)
  obtain ⟨hindex, -⟩ := hupdate _ _ hsubmitsIndex (givesIndex_post n) rfl
    Observer.neverPanics_silent
  exact ⟨(hid hfits).1, hindex hfits⟩

/-- The first integer that does not fit: as an index it is not out of the range of the graph but
rejected, and as an id it is not acknowledged. -/
theorem first_too_wide :
    let s := Service.ofTracker
      { primaryId := 0, observer := .silent, state := .tracking (.start (.withNodes 2)) }
    let n : Int := 170141183460469231731687303715884105728
    let create := post createPath (idBody n)
    let update := post updatePath (indexBody n)
    CreateFuzzerRequest.GivesId n none create.body ∧
      UpdateFeaturesRequest.GivesIndex n update.body ∧
      (∃ m, (handle s create).answer = .value (.failed 400 "INVALID_ARGUMENT" m)) ∧
      (∃ m, (handle s update).answer = .value (.failed 400 "INVALID_ARGUMENT" m)) ∧
      (handle s create).answer ≠ .value (.json 200 "{}") ∧
      ∀ m, (handle s update).answer ≠ .value (.failed 400 "OUT_OF_RANGE" m) := by
  intro s n create update
  have hwide : ¬ Int128.Fits n := by
    unfold Int128.Fits
    decide
  have hsubmitsId : Submits create createPath := submits_post (by decide +kernel)
  have hsubmitsIndex : Submits update updatePath := submits_post (by decide +kernel)
  obtain ⟨-, path, hcreate⟩ := handle_givesId_tooWide hsubmitsId (givesId_post n) hwide s
  obtain ⟨-, path', hupdate⟩ :=
    handle_givesIndex_tooWide hsubmitsIndex (givesIndex_post n) hwide s
  refine ⟨givesId_post n, givesIndex_post n, ⟨_, hcreate⟩, ⟨_, hupdate⟩, ?_, ?_⟩
  · rw [hcreate]
    exact fun heq => failed_ne_json (by decide) _ _ _ (Answer.value.inj heq)
  · intro m
    rw [hupdate]
    intro heq
    have hstatus := RpcStatus.write_injective (congrArg Response.body (Answer.value.inj heq))
    have hcode : "INVALID_ARGUMENT" ≠ "OUT_OF_RANGE" := by decide
    exact hcode (congrArg RpcStatus.code hstatus)

end Http

end NodeCoverage
