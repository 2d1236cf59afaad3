import NodeCoverage.Http.Message
import NodeCoverage.Service

/-!
# The router

Two paths lead to the two calls of the service. Any other path is not found, and any method but
`POST` is not allowed. A body that is rejected does not reach the service.
-/

namespace NodeCoverage.Http

/-- A call that a path leads to. -/
inductive Route where
  | createFuzzer
  | updateFeatures
  deriving DecidableEq, Repr

namespace Route

/-- The name of the call. -/
def name : Route → String
  | .createFuzzer => "CreateFuzzer"
  | .updateFeatures => "UpdateFeatures"

/-- The path of the call. -/
def path (r : Route) : String :=
  "/observer.ObserverService/" ++ r.name

/-- The call that a path leads to. -/
def ofPath? (path : String) : Option Route :=
  [Route.createFuzzer, .updateFeatures].find? (·.path == path)

end Route

namespace Response

/-- The response to a message that is no request. -/
def badRequest : Response where
  status := 400

/-- The response to an unknown path. -/
def notFound : Response where
  status := 404

/-- The response to a method that a path does not take. -/
def methodNotAllowed : Response where
  status := 405
  allow := some "POST"

/-- A response with a JSON body. -/
def json (status : Nat) (body : String) : Response where
  status := status
  contentType := some "application/json"
  body := body

/-- The response to a failed call. -/
def failure (e : ServiceError) : Response :=
  json e.status e.toStatus.write

/-- The response to a call. -/
def ofResult : Except ServiceError Acknowledgement → Response
  | .ok done => json 200 done.write
  | .error e => failure e

end Response

/-- A call with the value of the body, or with the reason why there is none. -/
def call {α : Type} (s : Service) (route : Route) (payload : Except Rejection α)
    (run : Service → α → Outcome Service (Except ServiceError Acknowledgement)) :
    Outcome Service Response :=
  match payload with
  | .error rejection =>
    { state := s
      answer := .value (.failure (.invalidArgument rejection.message))
      events := [⟨.warn, s!"{route.name} rejected: {rejection.message}", []⟩] }
  | .ok a =>
    let result := run s a
    { state := result.state
      answer := result.answer.map .ofResult
      events := result.events }

/-- The answer to a request. -/
def handle (s : Service) (r : Request) : Outcome Service Response :=
  match Route.ofPath? r.target.path with
  | none => ⟨s, .value .notFound, []⟩
  | some route =>
    if r.method ≠ "POST" then ⟨s, .value .methodNotAllowed, []⟩
    else
      match route with
      | .createFuzzer =>
        call s route (r.decode CreateFuzzerRequest.form.reader) Service.createFuzzer
      | .updateFeatures =>
        call s route (r.decode UpdateFeaturesRequest.form.reader) Service.updateFeatures

/-- The answer to what a client writes. What is no request does not reach the service. -/
def handleRaw (s : Service) (r : RawRequest) : Outcome Service Response :=
  match r.read with
  | .ok r => handle s r
  | .error _ => ⟨s, .value .badRequest, []⟩

end NodeCoverage.Http
