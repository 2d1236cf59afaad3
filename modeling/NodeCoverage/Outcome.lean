import NodeCoverage.Event

/-!
# What an operation leaves behind

Operations that involve an observer return an answer unless the observer panicked, and in both
cases leave a state and the events they logged.
-/

namespace NodeCoverage

/-- The result of an operation, or the message of the panic that ended it. -/
inductive Answer (α : Type) where
  | value (a : α)
  | panicked (message : String)
  deriving DecidableEq, Repr

/-- The answer of a further pure step. -/
def Answer.map {α β : Type} (f : α → β) : Answer α → Answer β
  | .value a => .value (f a)
  | .panicked message => .panicked message

/-- Whether the operation ended in a panic. -/
def Answer.isPanic {α : Type} : Answer α → Bool
  | .value _ => false
  | .panicked _ => true

/-- The state, the answer and the events of one operation, the events in order. -/
structure Outcome (σ α : Type) where
  state : σ
  answer : Answer α
  events : List Event := []

end NodeCoverage
