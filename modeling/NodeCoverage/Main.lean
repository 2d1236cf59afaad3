import NodeCoverage.CommandLine.Invocation
import NodeCoverage.Simulator.Listening

/-!
# The program

Prints what an invocation ends with. A host that serves answers the requests on standard input, a
line each: the method, the target and the body, with single blanks between them. Nothing is
decided here.
-/

namespace NodeCoverage.CommandLine

open Host

/-- The text of a field's value. -/
def fieldText : FieldValue → String
  | .integer n => toString n
  | .flag b => toString b
  | .text s => s
  | .real x => toString x

/-- The line of an event. -/
def eventLine (e : Event) : String :=
  " ".intercalate (e.level.name :: e.message :: e.fields.map fun (k, v) => s!"{k}={fieldText v}")

/-- The request of a line. -/
def requestOf (line : String) : Http.RawRequest :=
  let (method, target, body) :=
    match line.splitOn " " with
    | method :: target :: body => (method, target, " ".intercalate body)
    | parts => ("GET", " ".intercalate parts, "")
  { method := method
    target := target
    headers := [("content-type", "application/json")]
    body := Text.utf8 body }

/-- Nothing is found. -/
def absent : Refusal :=
  ⟨"No such file or directory (os error 2)"⟩

/-- The file that a command line leads to, as it is on the disk. -/
def snapshot (arguments : List String) : IO Files := do
  let named := ((parse arguments).toOption.bind (·.configFile)).getD Settings.usualFile
  try
    let content ← IO.FS.readBinFile named
    return { read := fun _ => .ok content.toList, contains := fun _ => true }
  catch
    | .noFileOrDirectory .. => return { read := fun _ => .error absent, contains := fun _ => false }
    | e => return { read := fun _ => .error ⟨toString e⟩, contains := fun _ => true }

/-- What the program finds around it when requests come on standard input: nothing listens and
nothing is started. -/
def standalone (files : Files) : Environment where
  files := files
  runtime := fun _ => .ok ()
  listen := Simulator.listenAt 49152
  start := fun _ => .error absent

/-- Answers the requests on standard input until it ends. -/
partial def answerAll (service : Service) (input output : IO.FS.Stream) : IO Unit := do
  let line ← input.getLine
  if line.isEmpty then return
  let r := Http.handleRaw service (requestOf (line.dropEndWhile (· = '\n')).toString)
  for e in r.events do
    IO.eprintln (eventLine e)
  match r.answer with
  | .value response => output.putStrLn s!"{response.status} {response.body}"
  | .panicked message => IO.eprintln message
  output.flush
  answerAll r.state input output

end NodeCoverage.CommandLine

open NodeCoverage CommandLine in
/-- Runs the program. -/
def main (arguments : List String) : IO UInt32 := do
  let invocation := invoke (standalone (← snapshot arguments)) [] false arguments
  match invocation.exit?, invocation with
  | some e, _ =>
    (← IO.getStdout).write ⟨e.output.toArray⟩
    (← IO.getStderr).write ⟨e.errors.toArray⟩
    match e.status with
    | .code n => return UInt32.ofNat n
    | .signal n => return UInt32.ofNat (128 + n)
  | none, .hosted _ server _ =>
    answerAll server.service (← IO.getStdin) (← IO.getStdout)
    return 0
  | none, _ => return 0
