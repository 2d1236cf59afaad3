import NodeCoverage.Config.Settings
import NodeCoverage.Host.Environment
import NodeCoverage.Text.Quoted

/-!
# The companion proxy

How the command line of the companion comes about, and how it is launched: in its own directory if
it has one, with the address it listens on and the URL of the service after its own arguments.

The identifier that the system gives to the process is left out, and so is a failure to wait for
it: a process that was started can be waited for.
-/

namespace NodeCoverage.Host

/-- What can go wrong with the companion. -/
inductive CompanionError where
  | emptyCommand
  | spawn (command : List String) (why : Refusal)
  | exited (status : ExitStatus)
  deriving DecidableEq, Repr

namespace CompanionError

/-- The text of the error. -/
def message : CompanionError → String
  | .emptyCommand => "Companion command is empty"
  | .spawn command why => s!"Failed to spawn command '{Text.quoteList command}': {why.message}"
  | .exited status => s!"Companion process exited unexpectedly: {status.message}"

/-- The text of what caused the error. -/
def cause? : CompanionError → Option String
  | .spawn _ why => some why.message
  | _ => none

end CompanionError

/-- The arguments of the companion after its executable. -/
def arguments (p : ProxySettings) (serviceUrl : String) : List String :=
  p.command.drop 1 ++ ["--listen_addr", p.listenAddr, "--observer_url", serviceUrl]

/-- A companion that has been started. -/
structure Launch where
  order : Order
  /-- How it ends if it is left alone. -/
  ending : Option ExitStatus
  deriving DecidableEq, Repr

/-- Starts the companion, where `start` says what comes of starting a process. -/
def launch (start : Order → Except Refusal (Option ExitStatus)) (p : ProxySettings)
    (serviceUrl : String) : Except CompanionError Launch :=
  match p.command with
  | [] => .error .emptyCommand
  | executable :: _ =>
    let order : Order := ⟨executable, arguments p serviceUrl, p.workingDir⟩
    match start order with
    | .error why => .error (.spawn p.command why)
    | .ok ending => .ok ⟨order, ending⟩

end NodeCoverage.Host
