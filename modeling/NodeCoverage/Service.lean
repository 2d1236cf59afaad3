import NodeCoverage.Tracker
import NodeCoverage.Wire.Message

/-!
# The service

One tracker behind a lock. Every call holds the lock for as long as it works on the tracker, so
calls act one after another. An observer that panics leaves the lock poisoned; the next call logs
that, clears the flag and goes on with the tracker as it was left.
-/

namespace NodeCoverage

/-- Why a call failed. -/
inductive ServiceError where
  | batch (e : BatchError)
  | invalidArgument (reason : String)
  deriving DecidableEq, Repr

namespace ServiceError

/-- The status number of the failure. -/
def status : ServiceError → Nat
  | .batch .notInitialized => 412
  | .batch (.indexOutOfRange _ _) => 400
  | .invalidArgument _ => 400

/-- The code of the failure. -/
def code : ServiceError → String
  | .batch .notInitialized => "FAILED_PRECONDITION"
  | .batch (.indexOutOfRange _ _) => "OUT_OF_RANGE"
  | .invalidArgument _ => "INVALID_ARGUMENT"

/-- The text of the failure. -/
def message : ServiceError → String
  | .batch e => e.message
  | .invalidArgument reason => "Invalid request body: " ++ reason

/-- The failure as it is sent. -/
def toStatus (e : ServiceError) : RpcStatus where
  code := e.code
  message := e.message

end ServiceError

/-- A tracker and the flag of its lock. -/
structure Service where
  tracker : Tracker
  poisoned : Bool := false

namespace Service

/-- A service of its own for a tracker. -/
def ofTracker (t : Tracker) : Service where
  tracker := t

/-- The event of a recovered lock. -/
def recovery : Event :=
  ⟨.error, "Progress observer panicked, recovering coverage tracker lock", []⟩

/-- What taking the lock logs. -/
def lockEvents (s : Service) : List Event :=
  if s.poisoned then [recovery] else []

/-- Runs an operation on the tracker under the lock. A panic in it poisons the lock. -/
def locked {α : Type} (s : Service) (operation : Tracker → Outcome Tracker α) :
    Outcome Service α :=
  let result := operation s.tracker
  { state := ⟨result.state, result.answer.isPanic⟩
    answer := result.answer
    events := s.lockEvents ++ result.events }

/-- Reads from the tracker under the lock. -/
def read {α : Type} (s : Service) (f : Tracker → α) : Outcome Service α :=
  s.locked fun t => ⟨t, .value (f t), []⟩

/-- Registers the graph of a request, which is empty if the request has none. -/
def createFuzzer (s : Service) (r : CreateFuzzerRequest) :
    Outcome Service (Except ServiceError Acknowledgement) :=
  let graph := r.structureGraph.getD {}
  let received : Event :=
    ⟨.debug, "CreateFuzzer",
      [("fuzzer_id", .integer r.fuzzerId.val), ("nodes", .integer graph.size)]⟩
  let result := s.locked fun t => t.register r.fuzzerId.val graph
  { state := result.state
    answer := result.answer.map fun _ => .ok {}
    events := received :: result.events }

/-- Reports the hits of a request. -/
def updateFeatures (s : Service) (r : UpdateFeaturesRequest) :
    Outcome Service (Except ServiceError Acknowledgement) :=
  let id : String × FieldValue := ("fuzzer_id", .integer r.fuzzerId.val)
  let result := s.locked (·.reportHits r.indices)
  match result.answer with
  | .panicked message => ⟨result.state, .panicked message, result.events⟩
  | .value (.error e) =>
    { state := result.state
      answer := .value (.error (.batch e))
      events := result.events ++ [⟨.warn, s!"UpdateFeatures rejected: {e.message}", [id]⟩] }
  | .value (.ok updated) =>
    let corpus : List (String × FieldValue) :=
      match r.corpusId with
      | none => []
      | some n => [("corpus_id", .integer n.toNat)]
    { state := result.state
      answer := .value (.ok {})
      events := result.events ++
        [⟨.debug, "UpdateFeatures",
          [id] ++ corpus ++ [("hits", .integer r.indices.length), ("updated", .flag updated)]⟩] }

end Service

end NodeCoverage
