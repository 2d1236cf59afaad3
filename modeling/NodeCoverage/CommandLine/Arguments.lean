/-!
# Command lines

The arguments of the host: five options with a value and three flags. An option takes its value
from the same argument or from the next one. A value that is an argument of its own is looked at
only when the next option or flag that exists, or the end, is reached, so an argument that is not
known is reported before a value that is missing or wrong.
-/

namespace NodeCoverage.CommandLine

/-- An option with a value. -/
inductive Setting where
  | configFile
  | listenAddr
  | workers
  | proxyCommand
  | proxyListenAddr
  deriving DecidableEq, Repr

/-- A flag. -/
inductive Flag where
  | noProxy
  | help
  | version
  deriving DecidableEq, Repr

/-- What may stand behind a name. -/
inductive Switch where
  | setting (s : Setting)
  | flag (f : Flag)
  deriving DecidableEq, Repr

/-- The switches with their long names. -/
def longNames : List (String × Switch) := [
  ("config-file", .setting .configFile),
  ("listen-addr", .setting .listenAddr),
  ("workers", .setting .workers),
  ("proxy-command", .setting .proxyCommand),
  ("proxy-listen-addr", .setting .proxyListenAddr),
  ("no-proxy", .flag .noProxy),
  ("help", .flag .help),
  ("version", .flag .version)]

/-- The switches with their short names. -/
def shortNames : List (Char × Switch) := [
  ('c', .setting .configFile),
  ('l', .setting .listenAddr),
  ('w', .setting .workers),
  ('h', .flag .help),
  ('V', .flag .version)]

/-- What a command line gives. -/
structure Arguments where
  configFile : Option String := none
  listenAddr : Option String := none
  workers : Option Nat := none
  proxyCommand : Option String := none
  proxyListenAddr : Option String := none
  noProxy : Bool := false
  deriving DecidableEq, Repr, Inhabited

/-- What is wrong with a command line, by its kind. The text that is written about it is left out. -/
inductive UsageError where
  | unknownArgument
  | invalidValue
  | valueValidation
  | tooManyValues
  | argumentConflict
  deriving DecidableEq, Repr

/-- Why a command line gives no arguments. -/
inductive Stop where
  | help
  | version
  | usage (e : UsageError)
  deriving DecidableEq, Repr

/-! ## Values -/

/-- A natural number below `2 ^ 64`: digits, perhaps after a plus sign. -/
def readCount? (s : String) : Option Nat :=
  let digits :=
    match s.toList with
    | '+' :: rest => rest
    | cs => cs
  if digits.isEmpty || !digits.all Char.isDigit then none
  else
    let n := digits.foldl (fun n c => 10 * n + (c.toNat - '0'.toNat)) 0
    if n < UInt64.size then some n else none

namespace Arguments

/-- Whether an option has been given. -/
def has (a : Arguments) : Setting → Bool
  | .configFile => a.configFile.isSome
  | .listenAddr => a.listenAddr.isSome
  | .workers => a.workers.isSome
  | .proxyCommand => a.proxyCommand.isSome
  | .proxyListenAddr => a.proxyListenAddr.isSome

/-- Gives an option its value, or none if there was none. An option is given once, a path is not
empty, and a number of workers is a count. -/
def give (a : Arguments) (s : Setting) (value : Option String) : Except UsageError Arguments :=
  match value with
  | none => .error .invalidValue
  | some v =>
    if a.has s then .error .argumentConflict
    else
      match s with
      | .configFile =>
        if v.isEmpty then .error .invalidValue else .ok { a with configFile := some v }
      | .listenAddr => .ok { a with listenAddr := some v }
      | .workers =>
        match readCount? v with
        | some n => .ok { a with workers := some n }
        | none => .error .valueValidation
      | .proxyCommand => .ok { a with proxyCommand := some v }
      | .proxyListenAddr => .ok { a with proxyListenAddr := some v }

/-- A host without a proxy has no use for options of the proxy. -/
def consistent (a : Arguments) : Bool :=
  !(a.noProxy && (a.proxyCommand.isSome || a.proxyListenAddr.isSome))

end Arguments

/-! ## Tokens -/

/-- What an argument looks like. -/
inductive Token where
  /-- Two dashes alone: no switch follows. -/
  | escape
  /-- A long name, and what stands behind an equals sign. -/
  | long (name : String) (value : Option String)
  /-- The letters after a single dash, at least one. -/
  | short (letter : Char) (rest : List Char)
  /-- Anything else. -/
  | plain
  deriving DecidableEq, Repr

/-- Takes a text apart at its first equals sign. -/
def splitEquals (cs : List Char) : String × Option String :=
  match cs.dropWhile (· ≠ '=') with
  | '=' :: value => (String.ofList (cs.takeWhile (· ≠ '=')), some (String.ofList value))
  | _ => (String.ofList cs, none)

/-- What an argument looks like. -/
def Token.of (argument : String) : Token :=
  match argument.toList with
  | ['-', '-'] => .escape
  | '-' :: '-' :: cs => .long (splitEquals cs).1 (splitEquals cs).2
  | '-' :: letter :: rest => .short letter rest
  | _ => .plain

/-- The value in the same argument as a short name, an equals sign before it left out. -/
def attached : List Char → Option String
  | [] => none
  | '=' :: value => some (String.ofList value)
  | value => some (String.ofList value)

/-! ## Reading -/

/-- How far a command line has been read. -/
structure Reading where
  given : Arguments := {}
  /-- An option whose value is not looked at yet, and the value if there was one. -/
  pending : Option (Setting × Option String) := none
  /-- Whether two dashes have come. -/
  escaped : Bool := false
  deriving DecidableEq, Repr

namespace Reading

/-- Looks at the value that is still pending. -/
def settle (p : Reading) : Except UsageError Reading :=
  match p.pending with
  | none => .ok p
  | some (s, value) =>
    match p.given.give s value with
    | .error e => .error e
    | .ok given => .ok { p with given := given, pending := none }

/-- Takes a flag. -/
def takeFlag (p : Reading) (f : Flag) : Except Stop Reading :=
  match p.settle with
  | .error e => .error (.usage e)
  | .ok p =>
    match f with
    | .help => .error .help
    | .version => .error .version
    | .noProxy =>
      if p.given.noProxy then .error (.usage .argumentConflict)
      else .ok { p with given := { p.given with noProxy := true } }

/-- Takes an option, whose value may be attached to it. -/
def takeSetting (p : Reading) (s : Setting) (value : Option String) : Except Stop Reading :=
  match p.settle with
  | .error e => .error (.usage e)
  | .ok p =>
    match value with
    | none => .ok { p with pending := some (s, none) }
    | some v =>
      match p.given.give s (some v) with
      | .error e => .error (.usage e)
      | .ok given => .ok { p with given := given }

/-- Takes a switch by its long name. -/
def takeLong (p : Reading) (name : String) (value : Option String) : Except Stop Reading :=
  match longNames.lookup name, value with
  | none, _ => .error (.usage .unknownArgument)
  | some (.flag _), some _ => .error (.usage .tooManyValues)
  | some (.flag f), none => p.takeFlag f
  | some (.setting s), value => p.takeSetting s value

/-- Takes switches by their short names. The flags among these end the reading, so nothing can
stand behind one. -/
def takeShort (p : Reading) (letter : Char) (rest : List Char) : Except Stop Reading :=
  match shortNames.lookup letter with
  | none => .error (.usage .unknownArgument)
  | some (.flag f) => p.takeFlag f
  | some (.setting s) => p.takeSetting s (attached rest)

/-- Takes an argument that is no switch: the value that an option waits for. -/
def takePlain (p : Reading) (argument : String) : Except Stop Reading :=
  match p.pending, p.escaped with
  | some (s, none), false => .ok { p with pending := some (s, some argument) }
  | _, _ => .error (.usage .unknownArgument)

/-- Takes one argument. -/
def take (p : Reading) (argument : String) : Except Stop Reading :=
  if p.escaped then p.takePlain argument
  else
    match Token.of argument with
    | .escape => .ok { p with escaped := true }
    | .long name value => p.takeLong name value
    | .short letter rest => p.takeShort letter rest
    | .plain => p.takePlain argument

end Reading

/-- The arguments of a command line. -/
def parse (arguments : List String) : Except Stop Arguments :=
  match arguments.foldlM Reading.take {} with
  | .error stop => .error stop
  | .ok p =>
    match p.settle with
    | .error e => .error (.usage e)
    | .ok p => if p.given.consistent then .ok p.given else .error (.usage .argumentConflict)

end NodeCoverage.CommandLine
