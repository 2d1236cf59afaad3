import NodeCoverage.CommandLine.Help
import NodeCoverage.Config.Load
import NodeCoverage.Host.Server

/-!
# Invocations

What the program does for a command line: it prints a text about itself, complains, or makes a
runtime and on it a server, which runs until a shutdown is requested or the companion ends it.

Left out are the set-up of the log and the lines that the program writes into it on its way, the
texts of complaints about the command line itself, and arguments that are no Unicode text.
-/

namespace NodeCoverage.CommandLine

open Host

/-- How the program ends. -/
structure Exit where
  status : ExitStatus
  /-- What it has written to the output. -/
  output : List UInt8 := []
  /-- What it has complained about. -/
  errors : List UInt8 := []
  deriving DecidableEq, Repr

/-- The text of an error and of its cause. -/
def report (message : String) (cause : Option String := none) : String :=
  match cause with
  | none => s!"Error: {message}\n"
  | some c => s!"Error: {message}\n\nCaused by:\n    {c}\n"

namespace Exit

/-- Ends well with a text. -/
def printing (text : String) : Exit where
  status := .code 0
  output := Text.utf8 text

/-- Ends because of an error. -/
def failing (message : String) (cause : Option String := none) : Exit where
  status := .code 1
  errors := Text.utf8 (report message cause)

/-- Ends without a runtime. -/
def ofRuntimeFailure : RuntimeFailure → Exit
  | .refused why => failing why.message
  | .fatal status text => { status := status, errors := Text.utf8 (text ++ "\n") }

/-- Ends with the result of a run. -/
def ofResult : Except CompanionError Unit → Exit
  | .ok () => printing ""
  | .error e => failing e.message e.cause?

end Exit

/-- How far the program gets with a command line. -/
inductive Invocation where
  /-- It ends before it makes a runtime. -/
  | ended (e : Exit)
  /-- It cannot make a runtime with so many workers. -/
  | stalled (workers : Nat) (why : RuntimeFailure)
  /-- It has made a runtime, and cannot bind the server. -/
  | unbound (workers : Nat) (why : BindError)
  /-- It has bound the server and run it. -/
  | hosted (workers : Nat) (server : Server) (session : Session)

namespace Invocation

/-- How the program ends, unless it goes on. -/
def exit? : Invocation → Option Exit
  | .ended e => some e
  | .stalled _ why => some (.ofRuntimeFailure why)
  | .unbound _ why => some (.failing why.message)
  | .hosted _ _ session => session.result.map .ofResult

/-- The workers of the runtime that the program makes or tries to make. -/
def workers? : Invocation → Option Nat
  | .ended _ => none
  | .stalled workers _ => some workers
  | .unbound workers _ => some workers
  | .hosted workers _ _ => some workers

end Invocation

/-- Makes a runtime. One without workers is refused before the system is asked. -/
def makeRuntime (env : Environment) (workers : Nat) : Except RuntimeFailure Unit :=
  if workers = 0 then .error (.fatal (.code 101) "Worker threads cannot be set to 0")
  else env.runtime workers

/-- Runs the host with settings, on a runtime for them. -/
def serve (env : Environment) (requests : List Http.RawRequest) (requested : Bool)
    (s : Settings) : Invocation :=
  match Server.bind env s .logging with
  | .error why => .unbound s.service.workers why
  | .ok server => .hosted s.service.workers server (server.run env requests requested)

/-- Runs the program with a command line. If it comes to serve, the requests are made to it, and
then a shutdown if it is `requested`. -/
def invoke (env : Environment) (requests : List Http.RawRequest) (requested : Bool)
    (arguments : List String) : Invocation :=
  match parse arguments with
  | .error .help => .ended (.printing helpText)
  | .error .version => .ended (.printing versionText)
  | .error (.usage _) => .ended { status := .code 2 }
  | .ok given =>
    match Settings.effective env.files given with
    | .error e => .ended (.failing e.message)
    | .ok s =>
      match s.validate with
      | .error e => .ended (.failing e.message)
      | .ok () =>
        match makeRuntime env s.service.workers with
        | .error why => .stalled s.service.workers why
        | .ok () => serve env requests requested s

end NodeCoverage.CommandLine
