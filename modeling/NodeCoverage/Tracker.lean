import NodeCoverage.Coverage
import NodeCoverage.Observer
import NodeCoverage.Outcome

/-!
# The coverage tracker

Counts the distinct nodes hit since the last registration by the primary client. Registrations by
other clients change nothing. A batch that marks a new node and reaches its end is announced to
the observer, once; the tracker keeps what it has announced.
-/

namespace NodeCoverage

/-- Whether a graph has been registered, and if so its coverage. -/
inductive TrackerState where
  | uninitialized
  | tracking (coverage : Coverage)
  deriving DecidableEq, Repr

/-- The coverage, while there is a graph. -/
def TrackerState.coverage? : TrackerState → Option Coverage
  | .uninitialized => none
  | .tracking coverage => some coverage

/-- A tracker: whose registrations count, who is told of progress, and what is known so far. -/
structure Tracker where
  primaryId : UInt64
  observer : Observer
  state : TrackerState := .uninitialized
  /-- Everything the observer has been told, latest first. -/
  notified : List Progress := []

/-- The primary id of a tracker that is configured with none. -/
def defaultPrimaryId : UInt64 := 0

/-- A client is primary when its id is the primary id as an integer; an id that no primary id can
equal is simply not primary. -/
def isPrimary (primaryId : UInt64) (clientId : Int) : Bool :=
  clientId == (primaryId.toNat : Int)

theorem isPrimary_iff (primaryId : UInt64) (clientId : Int) :
    isPrimary primaryId clientId = true ↔ clientId = (primaryId.toNat : Int) := by
  simp [isPrimary]

namespace Tracker

/-! ## Reading -/

/-- The coverage, while there is a graph. -/
def coverage? (t : Tracker) : Option Coverage :=
  t.state.coverage?

/-- Whether a graph has been registered. -/
def isTracking (t : Tracker) : Bool :=
  t.coverage?.isSome

/-- Distinct nodes seen, zero before a registration. -/
def covered (t : Tracker) : Nat :=
  t.coverage?.elim 0 (·.covered)

/-- Nodes of the registered graph, zero before a registration. -/
def total (t : Tracker) : Nat :=
  t.coverage?.elim 0 (·.total)

/-- Whether a node has been seen, for an index in the registered graph. -/
def isSeen? (t : Tracker) (index : Nat) : Option Bool :=
  t.coverage?.bind (·.isSeen? index)

/-- The registered graph. -/
def graph? (t : Tracker) : Option StructureGraph :=
  t.coverage?.map (·.graph)

/-! ## Registering a graph -/

/-- The events of a registration, in the order in which they are logged. -/
def registrationEvents (t : Tracker) (clientId : Int) (graph : StructureGraph) : List Event :=
  let id : String × FieldValue := ("fuzzer_id", .integer clientId)
  let registered : Event :=
    ⟨.info, "Registered structure graph",
      [id, ("nodes", .integer graph.size), ("functions", .integer graph.functions.length)]⟩
  if isPrimary t.primaryId clientId then
    if t.isTracking then
      [⟨.warn, "Primary fuzzer re-registered, resetting coverage", [id]⟩, registered]
    else
      [registered]
  else
    [⟨.debug, "Ignoring graph registration from non-primary fuzzer", [id]⟩]

/-- A registration by the primary client starts over with its graph; any other is ignored. -/
def register (t : Tracker) (clientId : Int) (graph : StructureGraph) : Outcome Tracker Unit where
  state :=
    if isPrimary t.primaryId clientId then { t with state := .tracking (.start graph) } else t
  answer := .value ()
  events := t.registrationEvents clientId graph

/-! ## Reporting hits -/

/-- Tells the observer. A refusal is logged and otherwise ignored. -/
def notify (t : Tracker) (p : Progress) : Outcome Tracker Unit :=
  let told := { t with notified := p :: t.notified }
  match t.observer.reply t.notified p with
  | .accepted logged => ⟨told, .value (), logged⟩
  | .refused reason =>
    ⟨told, .value (),
      [⟨.warn, s!"Progress notification failed: {reason}",
        [("observer", .text t.observer.name)]⟩]⟩
  | .panicked message => ⟨told, .panicked message, []⟩

/-- Marks the nodes of a batch in order and answers whether one of them was new, in which case the
observer is told. An index out of range ends the batch, and what came before it stays. -/
def reportHits (t : Tracker) (indices : List Int) : Outcome Tracker (Except BatchError Bool) :=
  match t.state with
  | .uninitialized => ⟨t, .value (.error .notInitialized), []⟩
  | .tracking coverage =>
    match coverage.applyHits false indices with
    | (after, .error e) => ⟨{ t with state := .tracking after }, .value (.error e), []⟩
    | (after, .ok false) => ⟨{ t with state := .tracking after }, .value (.ok false), []⟩
    | (after, .ok true) =>
      let told := notify { t with state := .tracking after } after.progress
      ⟨told.state, told.answer.map fun _ => .ok true, told.events⟩

end Tracker

end NodeCoverage
