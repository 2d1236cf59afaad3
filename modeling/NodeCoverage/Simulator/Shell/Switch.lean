/-!
# Switches

What the options of a shell turn on and off. Each has a name, and most have a letter.
-/

namespace NodeCoverage.Simulator.Shell

/-- A switch of a shell. -/
inductive Switch where
  /-- A command that fails ends the shell. -/
  | stopOnFailure
  /-- Words are no patterns for names. -/
  | literalNames
  | ignoreEnd
  | interactive
  | monitor
  /-- Commands are read and not run. -/
  | readOnly
  | fromInput
  /-- Each command is shown before it is run. -/
  | trace
  /-- Each line is shown when it is read. -/
  | verbose
  | modal
  | modeless
  /-- A redirection does not empty a file. -/
  | keepFiles
  /-- Each variable that gets a value is passed on. -/
  | passOn
  | notify
  /-- A variable without a value is an error. -/
  | refuseUnset
  | privileged
  | noLog
  | debugging
  deriving DecidableEq, Repr

namespace Switch

/-- All switches in the order in which they are listed. -/
def all : List Switch :=
  [stopOnFailure, literalNames, ignoreEnd, interactive, monitor, readOnly, fromInput, trace,
    verbose, modal, modeless, keepFiles, passOn, notify, refuseUnset, privileged, noLog, debugging]

/-- The name of a switch. -/
def name : Switch → String
  | stopOnFailure => "errexit"
  | literalNames => "noglob"
  | ignoreEnd => "ignoreeof"
  | interactive => "interactive"
  | monitor => "monitor"
  | readOnly => "noexec"
  | fromInput => "stdin"
  | trace => "xtrace"
  | verbose => "verbose"
  | modal => "vi"
  | modeless => "emacs"
  | keepFiles => "noclobber"
  | passOn => "allexport"
  | notify => "notify"
  | refuseUnset => "nounset"
  | privileged => "privileged"
  | noLog => "nolog"
  | debugging => "debug"

/-- The letter of a switch. -/
def letter? : Switch → Option Char
  | stopOnFailure => some 'e'
  | literalNames => some 'f'
  | ignoreEnd => some 'I'
  | interactive => some 'i'
  | monitor => some 'm'
  | readOnly => some 'n'
  | fromInput => some 's'
  | trace => some 'x'
  | verbose => some 'v'
  | modal => some 'V'
  | modeless => some 'E'
  | keepFiles => some 'C'
  | passOn => some 'a'
  | notify => some 'b'
  | refuseUnset => some 'u'
  | privileged => some 'p'
  | noLog | debugging => none

/-- The switch of a letter. -/
def ofLetter? (c : Char) : Option Switch :=
  all.find? fun s => s.letter? = some c

/-- The switch of a name. -/
def ofName? (name : String) : Option Switch :=
  all.find? fun s => s.name = name

/-- Turns a switch on or off among those that are on. Of the two ways to edit a line one takes the
place of the other. -/
def set (on : Bool) (s : Switch) (switches : List Switch) : List Switch :=
  let others := switches.filter (· ≠ s)
  if !on then others
  else
    match s with
    | modal => s :: others.filter (· ≠ modeless)
    | modeless => s :: others.filter (· ≠ modal)
    | s => s :: others

/-- The letters of the switches that are on, the last of the list first. -/
def letters (switches : List Switch) : String :=
  String.ofList ((all.filter switches.contains).filterMap letter?).reverse

/-- The list of the switches and whether they are on. -/
def listing (switches : List Switch) : String :=
  let line := fun (s : Switch) =>
    let blanks := String.ofList (List.replicate (16 - s.name.length) ' ')
    s!"{s.name}{blanks}" ++ (if switches.contains s then "on" else "off") ++ "\n"
  "Current option settings\n" ++ String.join (all.map line)

/-- The commands that set all switches as they are. -/
def commands (switches : List Switch) : String :=
  String.join <| all.map fun s =>
    "set " ++ (if switches.contains s then "-o " else "+o ") ++ s.name ++ "\n"

end Switch

end NodeCoverage.Simulator.Shell
