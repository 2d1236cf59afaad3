import NodeCoverage.Simulator.Shell.Condition
import NodeCoverage.Simulator.Shell.Declare
import NodeCoverage.Simulator.Shell.Format
import NodeCoverage.Simulator.Shell.Input
import NodeCoverage.Simulator.Shell.Lookup
import NodeCoverage.Simulator.Shell.Process
import NodeCoverage.Simulator.Shell.Setting

/-!
# Built-in commands

The commands that a shell carries out by itself, as far as they run no other commands. After an
error some of them end the shell; the others only fail.
-/

namespace NodeCoverage.Simulator.Shell

namespace State

/-! ## Control -/

/-- Leaves loops or goes on with them. -/
def leaveLoops (st : State) (command : String) (flow : Nat → Flow) (arguments : List String) :
    State :=
  let text := arguments.headD "1"
  st.withNumber command text fun n =>
    if n = 0 then st.refuse command s!"Illegal number: {text}"
    else
      match min n st.loops with
      | 0 => st.done 0
      | n => { st.done 0 with flow := flow n }

/-- Ends the shell or a function, with the status of an argument if there is one. -/
def leave (st : State) (command : String) (flow : Flow) (arguments : List String) : State :=
  match arguments with
  | [] => { st with flow := flow }
  | n :: _ => st.withNumber command n fun n => { st.done n with flow := flow }

/-! ## Directories -/

/-- The place that a path leads to by its text alone. -/
def placeByText (st : State) (path : String) : Place :=
  let start := if path.startsWith "/" then [] else st.files.working
  (path.splitOn "/").foldl
    (fun place name =>
      if name = "" ∨ name = "." then place
      else if name = ".." then place.dropLast
      else place ++ [name])
    start

/-- Whether a path starts at the root, in the directory at hand or in the one above. -/
def isAnchored (path : String) : Bool :=
  path.startsWith "/" ||
    match path.splitOn "/" with
    | first :: _ => first = "." || first = ".."
    | [] => false

/-- Goes to a directory. -/
def goTo (st : State) (place : Place) : Option State :=
  match st.files.enter ("/" ++ "/".intercalate place) with
  | .error _ => none
  | .ok files =>
    let old := st.directory
    let st := { st with files := files }.assign "OLDPWD" old
    let st := (st.assign "PWD" st.directory).done 0
    some ((st.markExported "OLDPWD").markExported "PWD")

/-- Enters a directory. A path that is not anchored is looked up in a list of directories. -/
def changeDirectory (st : State) (arguments : List String) : State :=
  st.withOptions "cd" "LP" arguments fun given =>
    let (target, loud) : String × Bool :=
      match given.rest with
      | [] => ((st.valueOf? "HOME").getD "", false)
      | "-" :: _ => ((st.valueOf? "OLDPWD").getD "", true)
      | path :: _ => (path, false)
    let path := if target.isEmpty then "." else target
    let starts :=
      if isAnchored path then [""] else ((st.valueOf? "CDPATH").getD "").splitOn ":"
    let tries := starts.map fun start =>
      (if start.isEmpty then path else start ++ "/" ++ path, !start.isEmpty)
    let isThere := fun (path : String) =>
      match st.files.root.at? (st.placeByText path) with
      | some e => e.isDirectory
      | none => false
    let found := tries.find? fun t => isThere t.1
    match (found.map (·.1)).bind fun path => st.goTo (st.placeByText path) with
    | none => st.refuse "cd" s!"can't cd to {target}"
    | some st =>
      if loud || found.any (·.2) then st.print (st.directory ++ "\n") else st

/-- Writes the directory at hand. -/
def showDirectory (st : State) (arguments : List String) : State :=
  st.withOptions "pwd" "LP" arguments fun _ => st.emitText "pwd" (st.directory ++ "\n") 0

/-! ## All of them -/

/-- Whether a condition holds. -/
def decideCondition (st : State) (command : String) (arguments : List String) : State :=
  match Condition.holds st.files arguments with
  | .ok truth => st.done (if truth then 0 else 1)
  | .error e => st.refuse command e.message

/-- Writes by a format. -/
def printFormatted (st : State) (arguments : List String) : State :=
  st.withOptions "printf" "" arguments fun given =>
    match given.rest with
    | [] => st.refuse "printf" "usage: printf format [arg ...]"
    | format :: rest =>
      let p := printfBytes format rest
      let status := if p.broken then 2 else if p.complaints.isEmpty then 0 else 1
      (p.complaints.foldl complain st).emit "printf" p.bytes status

/-- Carries out a built-in command, if the name is that of one. -/
def builtinOf? (st : State) (name : String) (arguments : List String) : Option State :=
  match name with
  | ":" | "true" => some (st.done 0)
  | "false" => some (st.done 1)
  | "echo" => some (st.emit "echo" (echoBytes arguments) 0)
  | "printf" => some (st.printFormatted arguments)
  | "exit" => some (st.leave "exit" .exiting arguments)
  | "return" => some (st.leave "return" .returning arguments)
  | "break" => some (st.leaveLoops "break" .breaking arguments)
  | "continue" => some (st.leaveLoops "continue" .continuing arguments)
  | "cd" | "chdir" => some (st.changeDirectory arguments)
  | "pwd" => some (st.showDirectory arguments)
  | "shift" => some (st.shift arguments)
  | "set" => some (st.setArguments arguments (st.listVariables "" (·.value.isSome)))
  | "getopts" => some (st.readOption arguments)
  | "export" => some (st.declareOrList "export" markExported (·.exported) arguments)
  | "readonly" => some (st.declareOrList "readonly" freeze (·.constant) arguments)
  | "local" => some (st.makeLocal arguments)
  | "unset" => some (st.unset arguments)
  | "read" => some (st.readVariables arguments)
  | "test" => some (st.decideCondition "test" arguments)
  | "[" =>
    if arguments.getLast? = some "]" then some (st.decideCondition "[" arguments.dropLast)
    else some (st.refuse "[" "missing ]")
  | "alias" => some (st.changeAliases arguments)
  | "unalias" => some (st.dropAliases arguments)
  | "type" => some (st.describeAll arguments)
  | "hash" => some (st.changeFound arguments)
  | "trap" => some (st.setTraps arguments)
  | "kill" => some (st.sendSignals arguments)
  | "jobs" => some (st.listJobs arguments)
  | "fg" | "bg" => some (st.resumeJob name arguments)
  | "umask" => some (st.changeMask arguments)
  | "ulimit" => some (st.changeLimits arguments)
  | "times" => some st.showTimes
  | _ => none

/-- Carries out a built-in command, if the name is that of one. An error of a common one ends
nothing. -/
def builtin? (st : State) (name : String) (arguments : List String) : Option State :=
  (builtinOf? { st with context := some name } name arguments).map fun after =>
    let after : State := { after with context := st.context }
    if after.flow = .failing ∧ !specialCommands.contains name then { after with flow := .next }
    else after

end State

end NodeCoverage.Simulator.Shell
