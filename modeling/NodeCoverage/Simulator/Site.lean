import NodeCoverage.CommandLine.Invocation
import NodeCoverage.Simulator.Listening
import NodeCoverage.Simulator.Shell.Run

/-!
# Sites

A site is a small system to run the host on: files, a free port, and the programs of its files,
among them a shell with its tools, as which companions are run. It makes an environment, one among
all that the host can be in, and shows what is left when the host has been run on it. The modules
of the simulator are for running the host only: what is proved about the host is proved for every
environment and takes nothing from here.
-/

namespace NodeCoverage.Simulator

open CommandLine (Exit Invocation)
open Host (Environment ExitStatus Launch Order Refusal RuntimeFailure)

/-- A system to run the host on. -/
structure Site where
  files : FileSystem
  /-- The port that a listener gets if it leaves the choice to the system. -/
  freePort : Nat
  /-- The variables that processes get. -/
  passed : List (String × String) := []

/-- A process that has been started. -/
structure Child where
  /-- The name that it is called by. -/
  name : String
  program : Program
  arguments : List String
  /-- The files as it finds them, in the directory where it runs. -/
  files : FileSystem
  /-- The variables that it gets. -/
  passed : List (String × String)

namespace Child

/-- How a process ends if it is left alone. -/
def ending (c : Child) : Shell.Ending :=
  Shell.runProgram c.files c.passed c.name c.program c.arguments

/-- How things are when a process has been left alone and nothing it started runs any more. -/
def silence (c : Child) : Shell.Ending :=
  Shell.runToSilence c.files c.passed c.name c.program c.arguments

end Child

/-- The refusal of an operation. -/
def OsError.refusal (e : OsError) : Refusal :=
  ⟨e.message⟩

/-- What making a runtime comes to. It keeps eight bytes for each worker in one block: no block has
2^63 bytes, and none of 2^47 bytes can be had. -/
def makeRoom (workers : Nat) : Except RuntimeFailure Unit :=
  let bytes := 8 * workers
  if UInt64.size ≤ 2 * bytes then .error (.fatal (.code 101) "capacity overflow")
  else if UInt32.size * 32768 ≤ bytes then
    .error (.fatal (.signal 6) s!"memory allocation of {bytes} bytes failed")
  else .ok ()

namespace Site

/-- Starts a process: no text that it gets may have a zero byte, its directory must be there, and
then its program. -/
def start (site : Site) (o : Order) : Except Refusal Child :=
  if (o.words ++ o.directory.toList).any (·.contains '\x00') then
    .error ⟨"nul byte found in provided data"⟩
  else
    let started : Except OsError Child := do
      let inside ← match o.directory with
        | none => .ok site.files
        | some directory => site.files.enter directory
      let program ← inside.executable o.executable
      .ok ⟨o.executable, program, o.arguments, inside, site.passed⟩
    started.mapError OsError.refusal

/-- The environment that the site is for the host. -/
def environment (site : Site) : Environment where
  files := {
    read := fun path => (site.files.read path).mapError OsError.refusal
    contains := site.files.contains }
  runtime := makeRoom
  listen := listenAt site.freePort
  start := fun o => (site.start o).map fun c => some c.ending.status

/-- The process of a companion. -/
def child? (site : Site) (l : Launch) : Option Child :=
  (site.start l.order).toOption

/-- The files after a run, of which a companion that is killed has got as far as its first sleep. -/
def filesAfter (site : Site) (launched : Option Launch) (killed : Bool) : FileSystem :=
  match launched.bind site.child? with
  | none => site.files
  | some c =>
    let ending := c.ending
    { (if killed then ending.asleep.getD ending.files else ending.files) with
      working := site.files.working }

end Site

/-- What the program and its companion leave. -/
structure Aftermath where
  exit : Exit
  files : FileSystem

/-- What is left of a program that ends next to a process that has ended: all that the process has
written, up to what comes from those it left behind, around what the program itself says. -/
def Child.around (c : Child) (files : FileSystem) (e : Exit) : Aftermath :=
  let before := c.ending.errors
  let silence := c.silence
  { exit := { e with
      output := silence.output ++ e.output
      errors := before ++ e.errors ++ silence.errors.drop before.length }
    files := { silence.files with working := files.working } }

/-- Runs the program with a command line, until it ends by itself. -/
def Site.invoke (site : Site) (arguments : List String) : Option Aftermath :=
  let invocation := CommandLine.invoke site.environment [] false arguments
  let launched? := match invocation with
    | .hosted _ _ session => session.launched
    | _ => none
  invocation.exit?.map fun e =>
    match launched?.bind site.child? with
    | none => ⟨e, site.files⟩
    | some c => c.around site.files e

end NodeCoverage.Simulator
