import NodeCoverage.Simulator.Program
import NodeCoverage.Simulator.Shell.Field
import NodeCoverage.Simulator.Shell.Arithmetic
import NodeCoverage.Simulator.Shell.Script
import NodeCoverage.Simulator.Shell.Signal
import NodeCoverage.Simulator.Shell.Switch

/-!
# The state of a shell

What a shell has when it is about to run a command: the files and the streams that are open, which
it shares with all that it starts, and variables, arguments and options of its own.
-/

namespace NodeCoverage.Simulator.Shell

/-- Where bytes go to and come from. -/
inductive Stream where
  | nothing
  | file (place : Place) (offset : Nat) (append : Bool)
  | pipe (content : List UInt8)
  /-- What someone outside reads, the last bytes first. Nothing can be read from it. -/
  | collected (chunks : List (List UInt8))

/-- What someone outside reads from a stream. -/
def Stream.gathered : Stream → List UInt8
  | .collected chunks => chunks.reverse.flatten
  | _ => []

/-- A variable. -/
structure Binding where
  value : Option String
  /-- Whether the shells that are started get it. -/
  exported : Bool := false
  /-- Whether it cannot change any more. -/
  constant : Bool := false
  deriving DecidableEq, Repr

/-- What comes after a command. -/
inductive Flow where
  /-- The next command. -/
  | next
  /-- The end of some loops. -/
  | breaking (loops : Nat)
  /-- The end of some loops but the last, which goes on. -/
  | continuing (loops : Nat)
  /-- The end of a function. -/
  | returning
  /-- The end of the shell. -/
  | exiting
  /-- The end of the shell because of an error. -/
  | failing
  /-- Nothing: it takes longer than anyone waits. -/
  | endless
  deriving DecidableEq, Repr

/-- A function, with the documents of the script that defines it and the lines before that. -/
structure Definition where
  body : Command
  documents : List Document
  linesBefore : Nat

/-- What a shell has for itself. One that is split off starts with a copy. -/
structure Interior where
  /-- The streams of the descriptors that are open, by their place among all. -/
  descriptors : List (Nat × Nat) := [(0, 0), (1, 1), (2, 2)]
  name : String := "sh"
  arguments : List String := []
  bindings : List (String × Binding) := []
  functions : List (String × Definition) := []
  aliases : List (String × String) := []
  documents : List Document := []
  switches : List Switch := []
  status : Nat := 0
  /-- The status of the last script whose output went into the command at hand. -/
  substituted : Nat := 0
  line : Nat := 1
  /-- The lines before the text at hand, if it is a part of another. -/
  linesBefore : Nat := 0
  /-- The line that reading the script has got to. -/
  reached : Nat := 1
  /-- The command that what is run belongs to, as complaints name it. -/
  context : Option String := none
  /-- The loops around the command at hand. -/
  loops : Nat := 0
  /-- The functions around the command at hand. -/
  calls : Nat := 0
  /-- What variables were before a command made them its own, if one can. -/
  shadowed : Option (List (String × Option Binding)) := none
  /-- The switches before a command made them its own. -/
  shadowedSwitches : Option (List Switch) := none
  /-- What is run when a signal comes, or at the end for number zero. -/
  traps : List (Nat × String) := []
  /-- The signals that were ignored when the program started, and always are. -/
  deaf : List Nat := []
  /-- The permissions that new files do not get. -/
  mask : Nat := 18
  /-- The limits that have been set, by their letters. -/
  limits : List (Char × String) := []
  /-- The argument that options are read from next, and where in the one before it that was left. -/
  optionPlace : Nat × Option Nat := (1, none)
  /-- The programs that have been found, with their paths. -/
  found : List (String × String) := []
  /-- The number of the process that the script was started in. -/
  process : Nat := 1000
  /-- The number of the process at hand. -/
  current : Nat := 1000
  /-- The number of the process that started this one. -/
  parent : Nat := 999
  /-- The number of the last process in the background. -/
  background : Option Nat := none
  /-- Whether the command at hand is all that the process is for. -/
  only : Bool := false

/-- A command in the background. It goes on when the shell waits, or when it has had the time. -/
structure Job where
  number : Nat
  process : Nat
  interior : Interior
  working : Place
  /-- The time that it has got to. -/
  time : Nat
  /-- What it has still to run. -/
  rest : List Command
  /-- The stages of its pipeline. -/
  stages : Nat := 1
  /-- How it ended. -/
  status : Option Nat := none
  /-- The signal that ended it. -/
  signal : Option Nat := none
  /-- Whether its process is gone, so that no signal can reach it. -/
  gone : Bool := false
  /-- Whether it has been waited for. -/
  waited : Bool := false

/-- The state of a shell. -/
structure State extends Interior where
  files : FileSystem
  /-- All streams that have been opened. -/
  streams : List Stream := [.nothing, .nothing, .nothing]
  /-- The files at the moment of the first sleep, if there was one. -/
  asleep : Option FileSystem := none
  /-- How many processes there have been. -/
  processes : Nat := 1000
  jobs : List Job := []
  /-- The signals that have been sent and not seen to, with the processes that they went to. -/
  signals : List (Nat × Nat) := []
  /-- The signal that ended the shell, if one did. -/
  killed : Option Nat := none
  flow : Flow := .next

/-! ## What a shell starts with -/

/-- The homes of the users there are. -/
def homeDirectories : List (String × String) :=
  [("root", "/root"), ("daemon", "/usr/sbin"), ("bin", "/bin"), ("sys", "/dev"),
    ("sync", "/bin"), ("games", "/usr/games"), ("man", "/var/cache/man"),
    ("lp", "/var/spool/lpd"), ("mail", "/var/mail"), ("news", "/var/spool/news"),
    ("uucp", "/var/spool/uucp"), ("proxy", "/bin"), ("www-data", "/var/www"),
    ("backup", "/var/backups"), ("list", "/var/list"), ("irc", "/run/ircd"),
    ("nobody", "/nonexistent")]

/-- The user that follows a tilde, and how many characters its name has. Nothing that is quoted or
expanded may stand in it. -/
def userAndRest (colons : Bool) (w : Word) : Option (String × Nat) :=
  let ends := fun (c : Char) => c = '/' || (colons && c = ':')
  let name := w.takeWhile fun
    | .char c false => !ends c
    | _ => false
  match w.drop name.length, bare? name with
  | [], some user | .char _ false :: _, some user => some (user, name.length)
  | _, _ => none

/-- Where programs are looked for if nothing else is said. -/
def standardPath : String :=
  "/usr/local/sbin:/usr/local/bin:/usr/sbin:/usr/bin:/sbin:/bin"

/-- The variables of a shell in a directory, given those that are passed on to it and the number of
the process that started it. -/
def initialBindings (passed : List (String × Binding)) (directory : String) (parent : Nat) :
    List (String × Binding) :=
  let own : List (String × Binding) := [("PWD", { value := some directory, exported := true }),
    ("OPTIND", { value := some "1" }), ("IFS", { value := some " \t\n" }),
    ("PPID", { value := some (toString parent) })]
  let usual : List (String × Binding) := [("PATH", { value := some standardPath }),
    ("PS1", { value := some "# " }), ("PS2", { value := some "> " }),
    ("PS4", { value := some "+ " })]
  let among := fun (entries : List (String × Binding)) (name : String) =>
    (entries.lookup name).isSome
  let passed := passed.filter fun entry => entry.2.value.isSome && !among own entry.1
  own ++ passed ++ usual.filter fun entry => !among passed entry.1

namespace State

/-- The time in microseconds after which nobody waits any more. -/
def patience : Nat := 3600000000

/-- Whether a switch is on. -/
def has (st : State) (s : Switch) : Bool :=
  st.switches.contains s

/-- The most functions that call one another. -/
def callLimit : Nat := 1000

/-- Ends a command with a status. -/
def done (st : State) (status : Nat) : State :=
  { st with status := status }

/-- Ends the shell. -/
def exit (st : State) (status : Nat) : State :=
  { st with status := status, flow := .exiting }

/-- Ends the shell because of an error. -/
def giveUp (st : State) : State :=
  { st with status := 2, flow := .failing }

/-- Goes to a line of the script. -/
def atLine (st : State) (line : Nat) : State :=
  { st with line := st.linesBefore + line }

/-- The line at hand in the text at hand. -/
def textLine (st : State) : Nat :=
  st.line - st.linesBefore

/-- Whether the next command is run. -/
def goesOn (st : State) : Bool :=
  st.flow == .next

/-! ## Streams -/

/-- The stream of a descriptor, with its place. -/
def stream? (st : State) (descriptor : Nat) : Option (Nat × Stream) := do
  let n ← st.descriptors.lookup descriptor
  let s ← st.streams[n]?
  some (n, s)

/-- Whether a descriptor is open. -/
def isOpen (st : State) (descriptor : Nat) : Bool :=
  (st.stream? descriptor).isSome

/-- Closes a descriptor. -/
def close (st : State) (descriptor : Nat) : State :=
  { st with descriptors := st.descriptors.filter fun d => d.1 != descriptor }

/-- Makes a descriptor lead to the stream at a place. -/
def connect (st : State) (descriptor n : Nat) : State :=
  { st with descriptors := (descriptor, n) :: (st.close descriptor).descriptors }

/-- Opens a stream. -/
def openStream (st : State) (descriptor : Nat) (s : Stream) : State :=
  { st with streams := st.streams ++ [s] }.connect descriptor st.streams.length

/-- Writes bytes. -/
def write (st : State) (descriptor : Nat) (bytes : List UInt8) : State :=
  match st.stream? descriptor with
  | some (n, .file place offset append) =>
    let offset :=
      match append, st.files.root.at? place with
      | true, some (.file content) => content.length
      | _, _ => offset
    { st with
      files := st.files.writeAt place offset bytes
      streams := st.streams.set n (.file place (offset + bytes.length) append) }
  | some (n, .pipe content) => { st with streams := st.streams.set n (.pipe (content ++ bytes)) }
  | some (n, .collected chunks) =>
    { st with streams := st.streams.set n (.collected (bytes :: chunks)) }
  | some (_, .nothing) | none => st

/-- What can be read, and the place of its stream. -/
def readable (st : State) (descriptor : Nat) : List UInt8 :=
  match st.stream? descriptor with
  | some (_, .file place offset _) =>
    (((st.files.root.at? place).bind Entry.content?).getD []).drop offset
  | some (_, .pipe content) => content
  | some (_, .nothing) | some (_, .collected _) | none => []

/-- Skips what has been read. -/
def skip (st : State) (descriptor count : Nat) : State :=
  match st.stream? descriptor with
  | some (n, .file place offset append) =>
    { st with streams := st.streams.set n (.file place (offset + count) append) }
  | some (n, .pipe content) => { st with streams := st.streams.set n (.pipe (content.drop count)) }
  | some (_, .nothing) | some (_, .collected _) | none => st

/-- Writes a text to the output. -/
def print (st : State) (text : String) : State :=
  st.write 1 (Text.utf8 text)

/-- Writes a complaint, after the name of the script, the line and the command. -/
def complain (st : State) (text : String) : State :=
  let context := (st.context.map (· ++ ": ")).getD ""
  st.write 2 (Text.utf8 s!"{st.name}: {st.line}: {context}{text}\n")

/-- Complains and ends the shell. -/
def fail (st : State) (text : String) : State :=
  (st.complain text).giveUp

/-- Complains about something on a line of a script, and ends the shell. -/
def failAt (st : State) (line : Nat) (e : SyntaxError) : State :=
  { st with line := line }.fail s!"Syntax error: {e.message}"

/-- The text of bytes, a character for each byte if they are no UTF-8. -/
def textOfBytes (bytes : List UInt8) : String :=
  (Text.ofUtf8? bytes).getD (String.ofList (bytes.map fun b => Char.ofNat b.toNat))

/-! ## Variables -/

/-- The value of a variable. -/
def valueOf? (st : State) (name : String) : Option String :=
  (st.bindings.lookup name).bind (·.value)

/-- Puts a binding in the place of another, or takes it away. -/
def bind (st : State) (name : String) (b : Option Binding) : State :=
  let others := st.bindings.filter fun entry => entry.1 != name
  { st with bindings := (b.map fun b => (name, b)).toList ++ others }

/-- The number of the option that is read next, as the variable for it says. -/
def resetOptions (st : State) (value : String) : State :=
  match integer? false value with
  | some n =>
    if 0 ≤ n ∧ n ≤ Int32.maxValue.toInt then { st with optionPlace := (max n.toNat 1, none) }
    else st.fail s!"Illegal number: {value}"
  | none => st.fail s!"Illegal number: {value}"

/-- Gives a variable a value. -/
def assign (st : State) (name value : String) : State :=
  let b := (st.bindings.lookup name).getD { value := none }
  if b.constant then st.fail s!"{name}: is read only"
  else
    let exported := b.exported || st.has .passOn
    let st := st.bind name (some { b with value := some value, exported := exported })
    if name = "OPTIND" then st.resetOptions value
    else if name = "PATH" then { st with found := [] }
    else st

/-- Gives the shells that are started a variable. -/
def markExported (st : State) (name : String) : State :=
  let b := (st.bindings.lookup name).getD { value := none }
  st.bind name (some { b with exported := true })

/-- The separators of fields. -/
def separators (st : State) : List Char :=
  ((st.valueOf? "IFS").getD " \t\n").toList

/-- The directory that the shell is in, as a path. -/
def directory (st : State) : String :=
  "/" ++ "/".intercalate st.files.working

/-- What stands between arguments in one text: the first separator. -/
def border (st : State) : List Char :=
  st.separators.take 1

/-- All arguments in one text. -/
def joinedArguments (st : State) : String :=
  (String.ofList st.border).intercalate st.arguments

/-- The characters of pieces that are not split. -/
def glyphsOf (st : State) (ps : List Piece) : List Glyph :=
  Piece.glyphs st.border ps

/-- The text of pieces that are not split. -/
def textOf (st : State) (ps : List Piece) : String :=
  glyphText (st.glyphsOf ps)

/-- The value of a parameter. -/
def value? (st : State) : Parameter → Option String
  | .named name => st.valueOf? name
  | .argument 0 => some st.name
  | .argument (n + 1) => st.arguments[n]?
  | .arguments => if st.arguments.isEmpty then none else some (" ".intercalate st.arguments)
  | .joined => if st.arguments.isEmpty then none else some st.joinedArguments
  | .count => some (toString st.arguments.length)
  | .status => some (toString st.status)
  | .options => some (Switch.letters st.switches)
  | .process => some (toString st.process)
  | .background => st.background.map toString

/-- The text of a parameter in complaints. -/
def parameterText : Parameter → String
  | .named name => name
  | .argument n => toString n
  | .arguments => "@"
  | .joined => "*"
  | .count => "#"
  | .status => "?"
  | .options => "-"
  | .process => "$"
  | .background => "!"

/-- Complains about a parameter without a value, if that is an error. -/
def refuseUnset (st : State) (p : Parameter) : State :=
  let exempt := p == .arguments || p == .joined
  if st.has .refuseUnset && !exempt && (st.value? p).isNone then
    st.fail s!"{parameterText p}: parameter not set"
  else st

/-- The pieces of the value of a parameter. -/
def pieces (st : State) (p : Parameter) (quoted : Bool) : List Piece :=
  if p.isApart quoted then Piece.ofValues quoted st.arguments
  else Piece.ofValue quoted ((st.value? p).getD "")

/-! ## Homes -/

/-- The home of a user, the one of the shell having no name. -/
def home? (st : State) (user : String) : Option String :=
  if user.isEmpty then st.valueOf? "HOME" else homeDirectories.lookup user

/-- A word in which a tilde that `starts` it, and after each colon if `colons`, is the home of the
user whose name follows. -/
def withHomes (st : State) (colons : Bool) (starts : Bool) : Word → Word
  | [] => []
  | .char '~' false :: rest =>
    match if starts then userAndRest colons rest else none with
    | some (user, size) =>
      match st.home? user with
      | some home =>
        home.toList.map (.char · true) ++ st.withHomes colons false (rest.drop size)
      | none => .char '~' false :: st.withHomes colons false rest
    | none => .char '~' false :: st.withHomes colons false rest
  | .char c quoted :: rest =>
    .char c quoted :: st.withHomes colons (colons && c = ':' && !quoted) rest
  | p :: rest => p :: st.withHomes colons false rest
termination_by w => w.length
decreasing_by all_goals simp only [List.length_cons, List.length_drop]; omega

/-! ## Signals -/

/-- What a shell does about a signal, if it does anything. -/
def trap? (st : State) (signal : Nat) : Option String :=
  st.traps.lookup signal

/-- Sends a signal to the shell itself. -/
def signalSelf (st : State) (signal : Nat) : State :=
  if signal = Signal.kill then { st.exit (128 + signal) with killed := some signal }
  else if signal = Signal.stop then { st with flow := .endless }
  else if st.deaf.contains signal then st
  else
    match st.trap? signal with
    | some "" => st
    | some _ =>
      let sent := (st.current, signal)
      if st.signals.contains sent then st else { st with signals := st.signals ++ [sent] }
    | none =>
      if Signal.isIgnored signal then st
      else { st.exit (128 + signal) with killed := some signal }

/-- The signals that the shell has got and not seen to. -/
def ownSignals (st : State) : List Nat :=
  (st.signals.filter fun s => s.1 == st.current).map (·.2)

/-- Notes that a child has ended. -/
def childEnded (st : State) : State :=
  if (st.trap? Signal.childEnded).any (!·.isEmpty) then st.signalSelf Signal.childEnded else st

/-- Sees to the signals that other processes have sent. -/
def takeSignals (st : State) : State :=
  let mine := st.signals.filter fun s => s.1 == st.current
  let others := st.signals.filter fun s => s.1 != st.current
  mine.foldl (fun st s => st.signalSelf s.2) { st with signals := others }

/-! ## Other shells -/

/-- Says that a signal ended a process, if that is worth saying. -/
def reportDeath (st : State) (signal : Option Nat) : State :=
  match signal with
  | none => st
  | some n =>
    if n = Signal.interrupt ∨ n = Signal.brokenPipe then st
    else st.write 2 (Text.utf8 (Signal.description n ++ "\n"))

/-- Goes on after another process, which shares files and streams. -/
def absorb (st inner : State) : State :=
  let st : State := { st with
    files := { inner.files with working := st.files.working }
    streams := inner.streams
    asleep := inner.asleep
    processes := inner.processes
    jobs := st.jobs ++
      (inner.jobs.filter fun j => j.status.isNone).map fun j => { j with number := 0 }
    signals := inner.signals
    status := inner.status % 256
    flow := if inner.flow = .endless then .endless else st.flow }
  st.childEnded.takeSignals

/-- The state of a shell that is split off. It has no jobs, and does nothing about signals but to
ignore them. -/
def split (st : State) : State :=
  let process := st.processes + 1
  { st with
    processes := process
    current := process
    parent := st.current
    jobs := []
    reached := 1
    only := false
    traps := st.traps.filter fun t => t.2.isEmpty }

/-- A new shell that is started from this one, in the same process. -/
def child (st : State) : State where
  files := st.files
  streams := st.streams
  descriptors := st.descriptors
  asleep := st.asleep
  processes := st.processes
  signals := st.signals
  bindings := initialBindings (st.bindings.filter fun entry => entry.2.exported) st.directory
    st.parent
  process := st.current
  current := st.current
  parent := st.parent
  deaf := st.deaf ++ (st.traps.filter fun t => t.2.isEmpty).map (·.1)
  mask := st.mask

/-- Lets time go by. The files are remembered as they are at the first time. -/
def sleep (st : State) (time : Nat) : State :=
  let st := { st with
    asleep := st.asleep <|> some st.files
    files := { st.files with now := st.files.now + time } }
  if patience < st.files.now then { st with flow := .endless } else st

/-- Runs a program that is no shell by a name, with some variables. It fails if it needs a
descriptor that is closed. -/
def perform (st : State) (passed : List (String × String)) (name : String) (p : Program)
    (arguments : List String) : State :=
  let input := if p.readsInput arguments then st.readable 0 else []
  let placeOf := fun (descriptor : Nat) =>
    match st.stream? descriptor with
    | some (_, .file place _ _) => some place
    | _ => none
  let e := p.run {
    name := name
    files := st.files
    input := if st.isOpen 0 then some input else none
    inputPlace := placeOf 0
    writable := st.isOpen 1
    outputPlace := placeOf 1
    passed := passed } arguments
  let lost := !st.isOpen 1 && e.written.any fun (d, bytes) => d = 1 && !bytes.isEmpty
  let st := { st with files := e.files }.skip 0 input.length
  let st := e.written.foldl (fun st (d, bytes) => st.write d bytes) st
  let st := st.done (if lost then 1 else e.status)
  match e.slept with
  | some time => st.sleep time
  | none => st

end State

end NodeCoverage.Simulator.Shell
