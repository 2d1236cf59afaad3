import NodeCoverage.Proofs.RoundTrip
import NodeCoverage.Proofs.Routing

/-!
# The wire between a caller and the service

A caller may hold the service itself, or post what is written for a request to its path. The router
limits what it takes, so the two ways agree up to that limit and no further.

Results:
* `handle_eq_respond`: a request whose text is within the limit is handled as the direct call is;
* `handle_eq_tooLong`: one whose text is longer does not reach the service;
* `ofResult_ne_invalidArgument`: no direct call is answered in that way;
* **`wire_transparent`**: the two ways agree iff the text is within the limit;
* `length_write_bare`, `posting_bare_acknowledged_iff`: how long the text of a graph without edges
  is, and how many nodes of one the router takes.
-/

namespace NodeCoverage

open Json
open Text (utf8)

namespace ServiceCall

/-- Where the request is posted. -/
def path : ServiceCall → String
  | .create _ => Http.createPath
  | .update _ => Http.updatePath

/-- The request as text. -/
def write : ServiceCall → String
  | .create a => a.write
  | .update a => a.write

end ServiceCall

/-- Different statuses are written differently. -/
theorem RpcStatus.write_injective {a b : RpcStatus} (h : a.write = b.write) : a = b := by
  have ha := takes_reader.decode_utf8 a.written
  rw [h, takes_reader.decode_utf8 b.written] at ha
  exact (Except.ok.inj ha).symm

namespace Http

variable {s : Service} {r : Request} {c : ServiceCall}

/-- The request posts what is written for a request of the service, and says that it is JSON. -/
structure Posts (r : Request) (c : ServiceCall) : Prop where
  method_eq : r.method = "POST"
  path_eq : r.target.path = c.path
  saysJson : r.SaysJson
  body_eq : r.body = utf8 c.write

/-- A request that posts a body as JSON to a path and carries nothing else. -/
def post (path : String) (body : List UInt8) : Request where
  method := "POST"
  target := .origin { path := path }
  headers := [("content-type", "application/json")]
  body := body

theorem saysJson_post (path : String) (body : List UInt8) : (post path body).SaysJson := by
  have hlower : "content-type".toLower = "content-type" := by decide +kernel
  exact ⟨"application/json", by simp [post, Request.header?, hlower], announcesJson_json⟩

/-- A request that posts a request of the service and carries nothing else. -/
def posting (c : ServiceCall) : Request :=
  post c.path (utf8 c.write)

theorem posts_posting (c : ServiceCall) : Posts (posting c) c where
  method_eq := rfl
  path_eq := rfl
  saysJson := saysJson_post _ _
  body_eq := rfl

/-- What a direct call comes to as a response. -/
def respond (o : Outcome Service (Except ServiceError Acknowledgement)) :
    Outcome Service Response where
  state := o.state
  answer := o.answer.map .ofResult
  events := o.events

/-- The message of a body that is too long. -/
def tooLongMessage : String :=
  "Invalid request body: Failed to buffer the request body: length limit exceeded"

/-! ## Both sides of the limit -/

/-- **Within the limit** the router does what the direct call does, its events included. -/
theorem handle_eq_respond (h : Posts r c) (hle : (utf8 c.write).length ≤ 2097152) (s : Service) :
    handle s r = respond (c.run s) := by
  have hlength : r.body.length ≤ 2097152 := h.body_eq ▸ hle
  cases c with
  | create a =>
    have hdecode : CreateFuzzerRequest.form.reader.decode r.body = .ok a := by
      rw [h.body_eq]
      exact CreateFuzzerRequest.takes_reader.decode_utf8 a.written
    rw [handle_createPath h.path_eq h.method_eq,
      (Checked.taken h.saysJson hlength hdecode).decode_eq]
    rfl
  | update a =>
    have hdecode : UpdateFeaturesRequest.form.reader.decode r.body = .ok a := by
      rw [h.body_eq]
      exact UpdateFeaturesRequest.takes_reader.decode_utf8 a.written
    rw [handle_updatePath h.path_eq h.method_eq,
      (Checked.taken h.saysJson hlength hdecode).decode_eq]
    rfl

theorem message_tooLong :
    "Invalid request body: " ++ Rejection.tooLong.message = tooLongMessage := by
  decide

/-- **Beyond the limit** the service is not reached. -/
theorem handle_eq_tooLong (h : Posts r c) (hlt : 2097152 < (utf8 c.write).length) (s : Service) :
    (handle s r).state = s ∧
      (handle s r).answer = .value (.failed 400 "INVALID_ARGUMENT" tooLongMessage) := by
  have hlength : 2097152 < r.body.length := h.body_eq ▸ hlt
  have hread : Reading r (.rejected .tooLong) := by
    cases c with
    | create a => exact .createRejected h.path_eq h.method_eq (.tooLong h.saysJson hlength)
    | update a => exact .updateRejected h.path_eq h.method_eq (.tooLong h.saysJson hlength)
  rw [← message_tooLong]
  exact hread.handle_rejected s

theorem code_batch_ne (e : BatchError) : (ServiceError.batch e).code ≠ "INVALID_ARGUMENT" := by
  cases e with
  | notInitialized => decide
  | indexOutOfRange index total =>
    show "OUT_OF_RANGE" ≠ "INVALID_ARGUMENT"
    decide

/-- What a call of the tracker comes to is never the response to a rejected body. -/
theorem ofResult_ne_invalidArgument (result : Except BatchError Acknowledgement) (m : String) :
    Response.ofResult (result.mapError .batch) ≠ .failed 400 "INVALID_ARGUMENT" m := by
  cases result with
  | ok done => exact (failed_ne_json (by decide) _ _ _).symm
  | error e =>
    intro heq
    have hstatus := RpcStatus.write_injective (congrArg Response.body heq)
    exact code_batch_ne e (congrArg RpcStatus.code hstatus)

/-- **The wire is transparent up to the limit of the router.** Take a service in any state whose
observer never panics, and a request that posts what is written for a request of the service. The
direct call has an answer. If the text has no more than 2097152 bytes, the router answers with the
response for it and leaves the service as the direct call does. If it has more, the router answers
that the body is too long, which is no response to a direct call, and leaves the service alone. -/
theorem wire_transparent {s : Service} (ho : s.tracker.observer.NeverPanics) {r : Request}
    {c : ServiceCall} (h : Posts r c) :
    ∃ result, (c.run s).answer = .value result ∧
      ((utf8 c.write).length ≤ 2097152 →
        (handle s r).answer = .value (.ofResult result) ∧
          (handle s r).state = (c.run s).state ∧ (handle s r).events = (c.run s).events) ∧
      (2097152 < (utf8 c.write).length →
        (handle s r).answer = .value (.failed 400 "INVALID_ARGUMENT" tooLongMessage) ∧
          (handle s r).answer ≠ .value (.ofResult result) ∧ (handle s r).state = s) := by
  obtain ⟨result, hresult⟩ := c.exists_answer_run ho
  refine ⟨_, hresult, fun hle => ?_, fun hlt => ?_⟩
  · rw [handle_eq_respond h hle, respond, hresult]
    exact ⟨rfl, rfl, rfl⟩
  · obtain ⟨hstate, hanswer⟩ := handle_eq_tooLong h hlt s
    refine ⟨hanswer, ?_, hstate⟩
    rw [hanswer]
    intro heq
    exact ofResult_ne_invalidArgument result tooLongMessage (Answer.value.inj heq).symm

/-- A report on a graph of five nodes, over the wire. -/
theorem wire_transparent_report :
    let s := Service.ofTracker
      { primaryId := 0, observer := .silent, state := .tracking (.start (.withNodes 5)) }
    let c := ServiceCall.update (.ofIndices [{ val := 3 }])
    (handle s (posting c)).answer = .value (.json 200 "{}") ∧
      (handle s (posting c)).state.tracker.covered = 1 := by
  intro s c
  obtain ⟨result, hresult, hwithin, -⟩ :=
    wire_transparent (s := s) Observer.neverPanics_silent (posts_posting c)
  obtain ⟨hanswer, hstate, -⟩ := hwithin (by decide +kernel)
  have hdirect : (c.run s).answer = .value (.ok {}) := by decide
  obtain rfl : result = .ok {} := Answer.value.inj (hresult.symm.trans hdirect)
  rw [hanswer, hstate, ofResult_ok]
  exact ⟨rfl, by decide⟩

/-! ## How large a graph may be -/

theorem length_commaEach_replicate (n : Nat) (text : String) :
    (commaEach (List.replicate n text)).length = n * ((utf8 text).length + 1) := by
  induction n with
  | zero => simp [commaEach]
  | succ n ih =>
    rw [List.replicate_succ, commaEach, List.flatMap_cons, List.length_append, List.length_cons,
      Nat.succ_mul, Nat.add_comm]
    exact congrArg (· + _) ih

/-- The length of a list of one text over and over. -/
theorem length_writeList_replicate (n : Nat) (text : String) :
    (utf8 (writeList (List.replicate (n + 1) text))).length =
      (n + 1) * ((utf8 text).length + 1) + 1 := by
  rw [← List.append_nil (utf8 _), utf8_writeList_append, List.replicate_succ,
    utf8_intercalate_cons, List.length_cons, List.length_append, List.length_append,
    length_commaEach_replicate, Nat.succ_mul]
  simp only [List.length_cons, List.length_nil]
  omega

/-- The length of a record of two members. -/
theorem length_writeRecord_pair (a b : String × String) :
    (utf8 (writeRecord [a, b])).length =
      (utf8 (writeText a.1)).length + (utf8 a.2).length + (utf8 (writeText b.1)).length +
        (utf8 b.2).length + 5 := by
  have hcolon : utf8 ":" = [0x3A] := by decide
  rw [← List.append_nil (utf8 _), utf8_writeRecord_append]
  simp only [List.map_cons, List.map_nil, utf8_intercalate_cons, commaEach, List.flatMap_cons,
    List.flatMap_nil, memberText, Text.utf8_append, hcolon, List.length_cons, List.length_append,
    List.length_nil]
  omega

/-- **The text of a graph without edges** has 36 bytes for each node. -/
theorem length_write_bare (n : Nat) :
    (utf8 (CreateFuzzerRequest.write { structureGraph := some (.withNodes (n + 1)) })).length =
      36 * (n + 1) + 60 := by
  have hnode : (utf8 (GraphNode.write {})).length = 35 := by decide
  have hnodes : (utf8 (writeList ((StructureGraph.withNodes (n + 1)).nodes.map (·.write)))).length =
      36 * (n + 1) + 1 := by
    rw [StructureGraph.withNodes, List.map_replicate, length_writeList_replicate, hnode,
      Nat.mul_comm]
  have hid : (utf8 (writeText "fuzzer_id")).length + (utf8 (writeInt 0)).length = 12 := by decide
  have hgraph : (utf8 (writeText "structure_graph")).length = 17 := by decide
  have hnames : (utf8 (writeText "nodes")).length + (utf8 (writeText "functions")).length = 18 := by
    decide
  have hnone : (utf8 (writeList [])).length = 2 := by decide
  rw [CreateFuzzerRequest.write, length_writeRecord_pair, Option.map_some, writeOption,
    StructureGraph.write, length_writeRecord_pair, hnodes]
  show (utf8 (writeText "fuzzer_id")).length + (utf8 (writeInt 0)).length +
    (utf8 (writeText "structure_graph")).length + ((utf8 (writeText "nodes")).length +
      (36 * (n + 1) + 1) + (utf8 (writeText "functions")).length +
        (utf8 (writeList [])).length + 5) + 5 = _
  omega

/-- Over the wire a graph without edges can have 58252 nodes and no more, while the service itself
takes one of any size. -/
theorem posting_bare_acknowledged_iff (s : Service) (n : Nat) :
    (handle s (posting (.create { structureGraph := some (.withNodes (n + 1)) }))).answer =
      .value (.json 200 "{}") ↔ n + 1 ≤ 58252 := by
  have hlength :
      (utf8 (ServiceCall.create { structureGraph := some (.withNodes (n + 1)) }).write).length =
        36 * (n + 1) + 60 := length_write_bare n
  by_cases hn : n + 1 ≤ 58252
  · refine iff_of_true ?_ hn
    rw [handle_eq_respond (posts_posting _) (by omega), ← ofResult_ok]
    rfl
  · refine iff_of_false ?_ hn
    rw [(handle_eq_tooLong (posts_posting _) (by omega) s).2]
    exact fun heq => failed_ne_json (by decide) _ _ _ (Answer.value.inj heq)

/-- A graph that the service takes and the router does not: 60000 nodes without edges. The direct
call registers it, the request that posts the same registration is turned away. -/
theorem large_graph_turned_away :
    let s := Service.ofTracker { primaryId := 0, observer := .silent }
    let c := ServiceCall.create { structureGraph := some (.withNodes 60000) }
    (c.run s).answer = .value (.ok {}) ∧ (c.run s).state.tracker.total = 60000 ∧
      (handle s (posting c)).answer =
        .value (.failed 400 "INVALID_ARGUMENT" tooLongMessage) ∧
      (handle s (posting c)).answer ≠ (c.run s).answer.map .ofResult ∧
      (handle s (posting c)).state.tracker.total = 0 := by
  intro s c
  have hlong : 2097152 < (utf8 c.write).length := by
    show 2097152 < (utf8 (CreateFuzzerRequest.write _)).length
    rw [length_write_bare 59999]
    decide
  have hdirect : (c.run s).answer = .value (.ok {}) := s.answer_createFuzzer _
  have htotal : (c.run s).state.tracker.total = 60000 := by
    show (s.tracker.step (.register s.tracker.primaryId.toNat (.withNodes 60000))).total = 60000
    rw [(Tracker.tracks_start s.tracker (.withNodes 60000)).total_eq,
      StructureGraph.size_withNodes]
  obtain ⟨hstate, hanswer⟩ := handle_eq_tooLong (posts_posting c) hlong s
  refine ⟨hdirect, htotal, hanswer, ?_, ?_⟩
  · rw [hanswer, hdirect]
    intro heq
    exact ofResult_ne_invalidArgument (.ok {}) tooLongMessage (Answer.value.inj heq).symm
  · rw [hstate]
    rfl

end Http

end NodeCoverage
