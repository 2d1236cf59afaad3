/-!
# Addresses

An address is a host and a port with a colon between them; a host that has colons of its own stands
in brackets.
-/

namespace NodeCoverage.Host

/-- A host and a port. -/
structure Address where
  host : String
  port : Nat
  deriving DecidableEq, Repr

/-- The address as text. -/
def Address.render (a : Address) : String :=
  s!"{a.host}:{a.port}"

end NodeCoverage.Host
