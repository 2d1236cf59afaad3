import NodeCoverage.Http.Router
import NodeCoverage.Proofs.Reply

/-!
# The router and the service behind it

`Verdict` lists what a request may come to, and `Reading` says which one by the request alone: its
path, then its method, then the three checks of its body (`Checked`). Whatever the service, a
request has exactly one reading.

Results:
* `checked_decode`, `Checked.decode_eq`: decoding a body is making the three checks in order;
* `exists_unique_reading`: every request has exactly one reading;
* `Reading.handle_rejected`, `Reading.handle_create`, `Reading.handle_update`: what the router
  makes of a body that is rejected, and of one that is taken;
* **`handle_refines`**: the router answers as the direct call does when the body is taken, and
  otherwise does not reach the service.
-/

namespace NodeCoverage.Http

/-! ## Readings of a request -/

/-- The first header of that name announces JSON. -/
def Request.SaysJson (r : Request) : Prop :=
  ∃ value, r.header? "content-type" = some value ∧ announcesJson value = true

/-- The checks of a body in order, with what they end in: the value, or the first failure. -/
inductive Checked {α : Type} (r : Request) (reader : Json.Reader α) : Except Rejection α → Prop
  | notJson : ¬ r.SaysJson → Checked r reader (.error .notJson)
  | tooLong : r.SaysJson → 2097152 < r.body.length → Checked r reader (.error .tooLong)
  | unreadable {f : Json.Failure} : r.SaysJson → r.body.length ≤ 2097152 →
      reader.decode r.body = .error f → Checked r reader (.error (.unreadable f))
  | taken {a : α} : r.SaysJson → r.body.length ≤ 2097152 →
      reader.decode r.body = .ok a → Checked r reader (.ok a)

/-- What a request may come to. -/
inductive Verdict where
  | notFound
  | notAllowed
  | rejected (why : Rejection)
  | create (a : CreateFuzzerRequest)
  | update (a : UpdateFeaturesRequest)

/-- The path of a registration. -/
def createPath : String := "/observer.ObserverService/CreateFuzzer"

/-- The path of a report. -/
def updatePath : String := "/observer.ObserverService/UpdateFeatures"

/-- What a request comes to. Only its path, its method, its content type and its body count. -/
inductive Reading (r : Request) : Verdict → Prop
  | notFound : r.target.path ≠ createPath → r.target.path ≠ updatePath → Reading r .notFound
  | notAllowed : r.target.path = createPath ∨ r.target.path = updatePath → r.method ≠ "POST" →
      Reading r .notAllowed
  | createRejected {why : Rejection} : r.target.path = createPath → r.method = "POST" →
      Checked r CreateFuzzerRequest.form.reader (.error why) → Reading r (.rejected why)
  | updateRejected {why : Rejection} : r.target.path = updatePath → r.method = "POST" →
      Checked r UpdateFeaturesRequest.form.reader (.error why) → Reading r (.rejected why)
  | create {a : CreateFuzzerRequest} : r.target.path = createPath → r.method = "POST" →
      Checked r CreateFuzzerRequest.form.reader (.ok a) → Reading r (.create a)
  | update {a : UpdateFeaturesRequest} : r.target.path = updatePath → r.method = "POST" →
      Checked r UpdateFeaturesRequest.form.reader (.ok a) → Reading r (.update a)

theorem isTokenChar_eq :
    isTokenChar = fun c => c.isAlphanum || decide (c ∈ "!#$%&'*+-.^_`|~".toList) := by
  funext c
  rw [isTokenChar, String.contains_char_eq]

/-- The plain media type of JSON, without parameters, announces it. -/
theorem announcesJson_json : announcesJson "application/json" = true := by
  unfold announcesJson MediaType.ofChars?
  rw [isTokenChar_eq]
  decide +kernel

theorem saysJson_iff (r : Request) :
    (r.header? "content-type").any announcesJson = true ↔ r.SaysJson := by
  unfold Request.SaysJson
  cases r.header? "content-type" <;> simp

/-- **Decoding a body is making its checks in order.** -/
theorem checked_decode {α : Type} (r : Request) (reader : Json.Reader α) :
    Checked r reader (r.decode reader) := by
  unfold Request.decode bodyLimit
  by_cases hjson : r.SaysJson
  · rw [(saysJson_iff r).mpr hjson, Bool.not_true, if_neg Bool.false_ne_true]
    by_cases hlong : 2097152 < r.body.length
    · rw [if_pos hlong]
      exact .tooLong hjson hlong
    · rw [if_neg hlong]
      have hle : r.body.length ≤ 2097152 := Nat.le_of_not_lt hlong
      cases hdecode : reader.decode r.body with
      | error f => exact .unreadable hjson hle hdecode
      | ok a => exact .taken hjson hle hdecode
  · rw [Bool.eq_false_iff.mpr fun h => hjson ((saysJson_iff r).mp h), Bool.not_false, if_pos rfl]
    exact .notJson hjson

/-- The checks end in one way only. -/
theorem Checked.decode_eq {α : Type} {r : Request} {reader : Json.Reader α}
    {result : Except Rejection α} (h : Checked r reader result) : r.decode reader = result := by
  unfold Request.decode bodyLimit
  cases h with
  | notJson hjson =>
    rw [Bool.eq_false_iff.mpr fun h => hjson ((saysJson_iff r).mp h), Bool.not_false, if_pos rfl]
  | tooLong hjson hlong =>
    rw [(saysJson_iff r).mpr hjson, Bool.not_true, if_neg Bool.false_ne_true, if_pos hlong]
  | unreadable hjson hle hdecode =>
    rw [(saysJson_iff r).mpr hjson, Bool.not_true, if_neg Bool.false_ne_true,
      if_neg (Nat.not_lt.mpr hle), hdecode]
    rfl
  | taken hjson hle hdecode =>
    rw [(saysJson_iff r).mpr hjson, Bool.not_true, if_neg Bool.false_ne_true,
      if_neg (Nat.not_lt.mpr hle), hdecode]
    rfl

/-! ## Paths -/

theorem createPath_ne_updatePath : createPath ≠ updatePath := by
  decide

theorem ofPath?_createPath : Route.ofPath? createPath = some .createFuzzer := by
  decide

theorem ofPath?_updatePath : Route.ofPath? updatePath = some .updateFeatures := by
  decide

theorem ofPath?_of_ne {path : String} (hc : path ≠ createPath) (hu : path ≠ updatePath) :
    Route.ofPath? path = none := by
  have hpaths : Route.createFuzzer.path = createPath ∧ Route.updateFeatures.path = updatePath := by
    decide
  unfold Route.ofPath?
  rw [List.find?_eq_none]
  intro route hm
  rcases List.mem_pair.mp hm with rfl | rfl
  · rw [hpaths.1, beq_iff_eq]
    exact hc.symm
  · rw [hpaths.2, beq_iff_eq]
    exact hu.symm

/-! ## One reading for each request -/

/-- What a body comes to that has been decoded, or rejected. -/
def Verdict.ofDecoded {α : Type} (taken : α → Verdict) : Except Rejection α → Verdict
  | .error why => .rejected why
  | .ok a => taken a

/-- What a request comes to, computed. -/
def Request.verdict (r : Request) : Verdict :=
  if r.target.path = createPath then
    if r.method = "POST" then .ofDecoded .create (r.decode CreateFuzzerRequest.form.reader)
    else .notAllowed
  else if r.target.path = updatePath then
    if r.method = "POST" then .ofDecoded .update (r.decode UpdateFeaturesRequest.form.reader)
    else .notAllowed
  else .notFound

theorem reading_verdict (r : Request) : Reading r r.verdict := by
  unfold Request.verdict
  by_cases hc : r.target.path = createPath
  · rw [if_pos hc]
    by_cases hm : r.method = "POST"
    · rw [if_pos hm]
      have hchecked := checked_decode r CreateFuzzerRequest.form.reader
      cases hdecode : r.decode CreateFuzzerRequest.form.reader with
      | error why => exact .createRejected hc hm (hdecode ▸ hchecked)
      | ok a => exact .create hc hm (hdecode ▸ hchecked)
    · rw [if_neg hm]
      exact .notAllowed (Or.inl hc) hm
  · rw [if_neg hc]
    by_cases hu : r.target.path = updatePath
    · rw [if_pos hu]
      by_cases hm : r.method = "POST"
      · rw [if_pos hm]
        have hchecked := checked_decode r UpdateFeaturesRequest.form.reader
        cases hdecode : r.decode UpdateFeaturesRequest.form.reader with
        | error why => exact .updateRejected hu hm (hdecode ▸ hchecked)
        | ok a => exact .update hu hm (hdecode ▸ hchecked)
      · rw [if_neg hm]
        exact .notAllowed (Or.inr hu) hm
    · rw [if_neg hu]
      exact .notFound hc hu

/-- **A request has one reading only.** -/
theorem Reading.eq_verdict {r : Request} {v : Verdict} (h : Reading r v) : v = r.verdict := by
  have hother : r.target.path = updatePath → r.target.path ≠ createPath :=
    fun hu hc => createPath_ne_updatePath (hc.symm.trans hu)
  unfold Request.verdict
  cases h with
  | notFound hc hu => rw [if_neg hc, if_neg hu]
  | notAllowed hp hm =>
    rcases hp with hc | hu
    · rw [if_pos hc, if_neg hm]
    · rw [if_neg (hother hu), if_pos hu, if_neg hm]
  | createRejected hc hm hx =>
    rw [if_pos hc, if_pos hm, hx.decode_eq]
    rfl
  | updateRejected hu hm hx =>
    rw [if_neg (hother hu), if_pos hu, if_pos hm, hx.decode_eq]
    rfl
  | create hc hm hx =>
    rw [if_pos hc, if_pos hm, hx.decode_eq]
    rfl
  | update hu hm hx =>
    rw [if_neg (hother hu), if_pos hu, if_pos hm, hx.decode_eq]
    rfl

theorem exists_unique_reading (r : Request) : ∃ v, Reading r v ∧ ∀ w, Reading r w → w = v :=
  ⟨r.verdict, reading_verdict r, fun _ hw => hw.eq_verdict⟩

/-! ## What the router makes of a reading -/

/-- A response with a status, and a code and a message in its body. -/
def Response.failed (status : Nat) (code message : String) : Response :=
  .json status (RpcStatus.write ⟨code, message⟩)

section Handle

variable {r : Request} {why : Rejection}

theorem Reading.handle_notFound (h : Reading r .notFound) (s : Service) :
    handle s r = ⟨s, .value { status := 404 }, []⟩ := by
  cases h with
  | notFound hc hu =>
    unfold handle
    rw [ofPath?_of_ne hc hu]
    rfl

theorem Reading.handle_notAllowed (h : Reading r .notAllowed) (s : Service) :
    handle s r = ⟨s, .value { status := 405, allow := some "POST" }, []⟩ := by
  cases h with
  | notAllowed hp hm =>
    unfold handle
    rcases hp with hp | hp
    · rw [hp, ofPath?_createPath]
      exact if_pos hm
    · rw [hp, ofPath?_updatePath]
      exact if_pos hm

/-- On the path of a registration, a request is a call with what its body decodes to. -/
theorem handle_createPath (hc : r.target.path = createPath) (hm : r.method = "POST")
    (s : Service) :
    handle s r =
      call s .createFuzzer (r.decode CreateFuzzerRequest.form.reader) Service.createFuzzer := by
  unfold handle
  rw [hc, ofPath?_createPath]
  exact if_neg (not_not.mpr hm)

/-- On the path of a report, a request is a call with what its body decodes to. -/
theorem handle_updatePath (hu : r.target.path = updatePath) (hm : r.method = "POST")
    (s : Service) :
    handle s r =
      call s .updateFeatures (r.decode UpdateFeaturesRequest.form.reader)
        Service.updateFeatures := by
  unfold handle
  rw [hu, ofPath?_updatePath]
  exact if_neg (not_not.mpr hm)

/-- A rejection leaves the service alone. -/
theorem Reading.handle_rejected (h : Reading r (.rejected why)) (s : Service) :
    (handle s r).state = s ∧ (handle s r).answer =
      .value (.failed 400 "INVALID_ARGUMENT" ("Invalid request body: " ++ why.message)) := by
  cases h with
  | createRejected hc hm hx =>
    rw [handle_createPath hc hm, hx.decode_eq]
    exact ⟨rfl, rfl⟩
  | updateRejected hu hm hx =>
    rw [handle_updatePath hu hm, hx.decode_eq]
    exact ⟨rfl, rfl⟩

theorem Reading.handle_create {a : CreateFuzzerRequest} (h : Reading r (.create a))
    (s : Service) :
    (handle s r).state = (s.createFuzzer a).state ∧
      (handle s r).answer = (s.createFuzzer a).answer.map .ofResult := by
  cases h with
  | create hc hm hx =>
    rw [handle_createPath hc hm, hx.decode_eq]
    exact ⟨rfl, rfl⟩

theorem Reading.handle_update {a : UpdateFeaturesRequest} (h : Reading r (.update a))
    (s : Service) :
    (handle s r).state = (s.updateFeatures a).state ∧
      (handle s r).answer = (s.updateFeatures a).answer.map .ofResult := by
  cases h with
  | update hu hm hx =>
    rw [handle_updatePath hu hm, hx.decode_eq]
    exact ⟨rfl, rfl⟩

end Handle

/-! ## The response to a report -/

section Respond

variable {state : TrackerState} {a : UpdateFeaturesRequest}

theorem ofResult_ok : Response.ofResult (.ok {}) = .json 200 "{}" := by
  decide

/-- The response to a report is one of three, by the state and the indices. -/
theorem ofResult_reply_cases (state : TrackerState) (a : UpdateFeaturesRequest) :
    (state = .uninitialized ∧ Response.ofResult (reply state a) =
        .failed 412 "FAILED_PRECONDITION" BatchError.notInitialized.message) ∨
      (∃ c index, state = .tracking c ∧ index ∈ a.indices ∧ ¬ InGraph c.total index ∧
        Response.ofResult (reply state a) =
          .failed 400 "OUT_OF_RANGE" (BatchError.indexOutOfRange index c.total).message) ∨
      ∃ c, state = .tracking c ∧ (∀ index ∈ a.indices, InGraph c.total index) ∧
        Response.ofResult (reply state a) = .json 200 "{}" := by
  cases state with
  | uninitialized => exact Or.inl ⟨rfl, rfl⟩
  | tracking c =>
    refine Or.inr ?_
    by_cases hin : ∀ index ∈ a.indices, InGraph c.total index
    · have hok : reply (.tracking c) a = .ok {} := replyTo_eq_ok_iff.mpr hin
      exact Or.inr ⟨c, rfl, hin, by rw [hok, ofResult_ok]⟩
    · rw [← firstOutside?_eq_none_iff] at hin
      obtain ⟨index, hfirst⟩ := Option.ne_none_iff_exists'.mp hin
      have herror : reply (.tracking c) a =
          .error (.batch (.indexOutOfRange index c.total)) := by
        simp only [reply, replyTo, hfirst]
      obtain ⟨hm, hout⟩ := outside_of_firstOutside? hfirst
      exact Or.inl ⟨c, index, rfl, hm, hout, by rw [herror]; rfl⟩

theorem failed_ne {status status' : Nat} (h : status ≠ status') (code code' m m' : String) :
    Response.failed status code m ≠ .failed status' code' m' :=
  fun heq => h (congrArg Response.status heq)

theorem failed_ne_json {status status' : Nat} (h : status ≠ status') (code m body : String) :
    Response.failed status code m ≠ .json status' body :=
  fun heq => h (congrArg Response.status heq)

theorem preconditionFailed_iff :
    (∃ m, Response.ofResult (reply state a) = .failed 412 "FAILED_PRECONDITION" m) ↔
      state = .uninitialized := by
  rcases ofResult_reply_cases state a with
    ⟨rfl, h⟩ | ⟨c, index, rfl, -, -, h⟩ | ⟨c, rfl, -, h⟩
  · exact iff_of_true ⟨_, h⟩ rfl
  · rw [h]
    exact iff_of_false (fun ⟨m, hm⟩ => failed_ne (by decide) _ _ _ m hm) nofun
  · rw [h]
    exact iff_of_false (fun ⟨m, hm⟩ => failed_ne_json (by decide) _ m _ hm.symm) nofun

theorem outOfRange_iff :
    (∃ m, Response.ofResult (reply state a) = .failed 400 "OUT_OF_RANGE" m) ↔
      ∃ c, state = .tracking c ∧ ∃ index ∈ a.indices, ¬ InGraph c.total index := by
  rcases ofResult_reply_cases state a with
    ⟨rfl, h⟩ | ⟨c, index, rfl, hm, hout, h⟩ | ⟨c, rfl, hin, h⟩
  · rw [h]
    exact iff_of_false (fun ⟨m, hm⟩ => failed_ne (by decide) _ _ _ m hm) nofun
  · exact iff_of_true ⟨_, h⟩ ⟨c, rfl, index, hm, hout⟩
  · rw [h]
    refine iff_of_false (fun ⟨m, hm⟩ => failed_ne_json (by decide) _ m _ hm.symm) ?_
    rintro ⟨_, ⟨⟩, index, hm, hout⟩
    exact hout (hin index hm)

theorem acknowledged_iff :
    Response.ofResult (reply state a) = .json 200 "{}" ↔
      ∃ c, state = .tracking c ∧ ∀ index ∈ a.indices, InGraph c.total index := by
  rcases ofResult_reply_cases state a with
    ⟨rfl, h⟩ | ⟨c, index, rfl, hm, hout, h⟩ | ⟨c, rfl, hin, h⟩
  · rw [h]
    exact iff_of_false (failed_ne_json (by decide) _ _ _) nofun
  · rw [h]
    refine iff_of_false (failed_ne_json (by decide) _ _ _) ?_
    rintro ⟨_, ⟨⟩, hin⟩
    exact hout (hin index hm)
  · exact iff_of_true h ⟨c, rfl, hin⟩

end Respond

/-- **The router refines the calls behind it.** Take a service in any state whose observer never
panics. A request has exactly one reading. If no path or method matches, or one of the checks
of the body fails, the service is left as it is, what it has told its observer included, and the
answer is 404, 405, or 400 with the message of the first check that fails. Else the service is left
as the direct call leaves it, and the answer is that of the direct call: a registration is always
acknowledged, and a report fails without a graph, fails with an index outside the graph, and is
acknowledged otherwise. -/
theorem handle_refines {s : Service} (ho : s.tracker.observer.NeverPanics) (r : Request) :
    ∃ v, Reading r v ∧ (∀ w, Reading r w → w = v) ∧
      match v with
      | .notFound =>
        (handle s r).state = s ∧ (handle s r).answer = .value { status := 404 }
      | .notAllowed =>
        (handle s r).state = s ∧
          (handle s r).answer = .value { status := 405, allow := some "POST" }
      | .rejected why =>
        (handle s r).state = s ∧ (handle s r).answer =
          .value (.failed 400 "INVALID_ARGUMENT" ("Invalid request body: " ++ why.message))
      | .create a =>
        (handle s r).state = (s.createFuzzer a).state ∧
          (s.createFuzzer a).answer = .value (.ok {}) ∧
          (handle s r).answer = .value (.json 200 "{}")
      | .update a =>
        (handle s r).state = (s.updateFeatures a).state ∧
          ∃ result response, (s.updateFeatures a).answer = .value result ∧
            (handle s r).answer = .value response ∧ response = .ofResult result ∧
            ((∃ m, response = .failed 412 "FAILED_PRECONDITION" m) ↔
              s.tracker.state = .uninitialized) ∧
            ((∃ m, response = .failed 400 "OUT_OF_RANGE" m) ↔
              ∃ c, s.tracker.state = .tracking c ∧
                ∃ index ∈ a.indices, ¬ InGraph c.total index) ∧
            (response = .json 200 "{}" ↔
              ∃ c, s.tracker.state = .tracking c ∧
                ∀ index ∈ a.indices, InGraph c.total index) := by
  obtain ⟨v, hv, honly⟩ := exists_unique_reading r
  refine ⟨v, hv, honly, ?_⟩
  cases v with
  | notFound =>
    rw [hv.handle_notFound s]
    exact ⟨rfl, rfl⟩
  | notAllowed =>
    rw [hv.handle_notAllowed s]
    exact ⟨rfl, rfl⟩
  | rejected why => exact hv.handle_rejected s
  | create a =>
    obtain ⟨hstate, hanswer⟩ := hv.handle_create s
    rw [s.answer_createFuzzer a, Answer.map, ofResult_ok] at hanswer
    exact ⟨hstate, s.answer_createFuzzer a, hanswer⟩
  | update a =>
    obtain ⟨hstate, hanswer⟩ := hv.handle_update s
    have hdirect := Service.answer_updateFeatures ho a
    rw [hdirect] at hanswer
    exact ⟨hstate, _, _, hdirect, hanswer, rfl, preconditionFailed_iff, outOfRange_iff,
      acknowledged_iff⟩

/-- A report without hits on a tracker without a graph: the body is fine and the call fails. -/
theorem handle_refines_empty_report :
    let s := Service.ofTracker { primaryId := 0, observer := .silent }
    let r : Request :=
      { method := "POST"
        target := .origin { path := updatePath, query := some "x=1" }
        headers := [("Content-Type", "application/json")]
        body := [0x7b, 0x7d] }
    ∃ m, (handle s r).answer = .value (.failed 412 "FAILED_PRECONDITION" m) := by
  intro s r
  have hjson : r.SaysJson := ⟨"application/json", by decide +kernel, announcesJson_json⟩
  have hread : UpdateFeaturesRequest.form.reader.decode r.body = .ok {} := by
    decide +kernel
  have hr : Reading r (.update {}) := .update rfl rfl (.taken hjson (by decide) hread)
  obtain ⟨v, -, honly, hv⟩ :=
    handle_refines (s := s) Observer.neverPanics_silent r
  obtain rfl := honly _ hr
  obtain ⟨-, result, response, -, hanswer, -, hfailed, -, -⟩ := hv
  obtain ⟨m, hm⟩ := hfailed.mpr rfl
  exact ⟨m, by rw [hanswer, hm]⟩

end NodeCoverage.Http
