import NodeCoverage.Event

/-!
# Coverage progress

The pair of counts that is reported to an observer: how many nodes have been seen, and how many
there are.
-/

namespace NodeCoverage

/-- A snapshot of coverage: `covered` nodes of `total`. -/
structure Progress where
  covered : Nat
  total : Nat
  deriving DecidableEq, Repr, Inhabited

namespace Progress

/-- The text `covered / total`. -/
def display (p : Progress) : String :=
  s!"{p.covered} / {p.total}"

/-- The double nearest to a count, which is a 64-bit word. -/
def double (count : Nat) : Float :=
  count.toUInt64.toFloat

/-- The fraction covered: the quotient of the two counts as doubles, zero for an empty graph. -/
def ratio (p : Progress) : Float :=
  if p.total = 0 then 0.0 else double p.covered / double p.total

/-- The event that announces progress. -/
def event (p : Progress) : Event where
  level := .info
  message := p.display
  fields := [("covered", .integer p.covered), ("total", .integer p.total), ("ratio", .real p.ratio)]

end Progress

end NodeCoverage
