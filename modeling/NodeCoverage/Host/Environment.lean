import NodeCoverage.Host.Address
import NodeCoverage.Host.ExitStatus

/-!
# The environment of the host

What the host asks of the system it runs on, and of the libraries that ask for it: to read files,
to make a runtime, to listen at an address and to start a process. An environment says what comes
of each; nothing is assumed about it, so whatever the system does is the case of some environment.

Not told here: how the name of a host is resolved and how a free port is found (`listen` gives the
address that came of it), how a program is looked up and which variables it gets (`start` gives how
it ends), and the time that any of this takes.
-/

namespace NodeCoverage.Host

/-- Why the system refuses something, in its own words. -/
structure Refusal where
  message : String
  deriving DecidableEq, Repr

/-- The files that the host looks at. -/
structure Files where
  /-- What comes of reading the file of a path. -/
  read : String → Except Refusal (List UInt8)
  /-- Whether there is anything at a path. -/
  contains : String → Bool

/-- Why there is no runtime. -/
inductive RuntimeFailure where
  /-- The system refuses what a runtime takes. -/
  | refused (why : Refusal)
  /-- The attempt ends the host, which leaves a text. -/
  | fatal (status : ExitStatus) (text : String)
  deriving DecidableEq, Repr

/-- Why nobody listens at an address. -/
inductive ListenFailure where
  | refused (why : Refusal)
  /-- The listener is there, but not the address that it got. -/
  | unaddressed (why : Refusal)
  deriving DecidableEq, Repr

/-- What the system is asked to start: a program with arguments, perhaps in a directory. -/
structure Order where
  executable : String
  arguments : List String
  directory : Option String
  deriving DecidableEq, Repr

/-- The words of an order. -/
def Order.words (o : Order) : List String :=
  o.executable :: o.arguments

/-- What the host finds around it. -/
structure Environment where
  files : Files
  /-- What comes of making a runtime with so many workers. -/
  runtime : Nat → Except RuntimeFailure Unit
  /-- What comes of listening at an address: the address that the listener got. -/
  listen : String → Except ListenFailure Address
  /-- What comes of starting a process: how it ends if it is left alone, or nothing if it does
  not. -/
  start : Order → Except Refusal (Option ExitStatus)

end NodeCoverage.Host
