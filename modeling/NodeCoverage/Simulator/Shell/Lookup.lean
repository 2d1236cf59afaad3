import NodeCoverage.Simulator.Shell.Report

/-!
# Looking up commands

Where a name leads: to a word that the shell reserves, an alias, a function, a command of the
shell, or a program in one of the directories that are searched.
-/

namespace NodeCoverage.Simulator.Shell

/-- The commands of the shell. -/
def shellCommands : List String :=
  [".", ":", "[", "alias", "bg", "break", "cd", "chdir", "command", "continue", "echo", "eval",
    "exec", "exit", "export", "false", "fg", "getopts", "hash", "jobs", "kill", "local", "printf",
    "pwd", "read", "readonly", "return", "set", "shift", "test", "times", "trap", "true", "type",
    "ulimit", "umask", "unalias", "unset", "wait"]

/-- What a file that can be run is. -/
inductive Runnable where
  | program (p : Program)
  /-- A text for another program to read. -/
  | script (content : List UInt8)

/-- What the file of a path is, if it can be run. -/
def runnableAt (fs : FileSystem) (path : String) : Except OsError Runnable := do
  let place ← fs.resolve path
  match fs.root.at? place with
  | some (.program p) => .ok (.program p)
  | some (.file content) =>
    if fs.runnable.contains place then .ok (.script content) else .error .permissionDenied
  | some _ => .error .permissionDenied
  | none => .error .notFound

/-- What is said about a program that cannot be run. -/
def missingText (e : OsError) : String :=
  match e with
  | .notFound | .notDirectory => "not found"
  | e => e.reason

/-- The path of a program that a name leads to in a list of directories, or why there is none. -/
def searchPath (fs : FileSystem) (directories name : String) : Except OsError String :=
  go .notFound (directories.splitOn ":")
where
  /-- The same among directories, after those where it was not. -/
  go (why : OsError) : List String → Except OsError String
    | [] => .error why
    | directory :: rest =>
      let path := if directory.isEmpty then name else directory ++ "/" ++ name
      match runnableAt fs path with
      | .ok _ => .ok path
      | .error .notFound | .error .notDirectory => go why rest
      | .error e => go e rest

namespace State

/-- The path of a program, which is remembered if it was found once. -/
def findProgram (st : State) (name : String) : Except OsError String :=
  match st.found.lookup name with
  | some path => .ok path
  | none =>
    match st.valueOf? "PATH" with
    | none => .error .notFound
    | some directories => searchPath st.files directories name

/-- Remembers the path of a program. -/
def remember (st : State) (name path : String) : State :=
  if (st.found.lookup name).isSome then st else { st with found := st.found ++ [(name, path)] }

/-- What a name stands for, in words or as it is used, or nothing if it stands for nothing. -/
def describe? (st : State) (verbose : Bool) (directories : Option String) (name : String) :
    Option String :=
  let say := fun (what : String) => some (if verbose then s!"{name} is {what}" else name)
  if reservedWords.contains name then say "a shell keyword"
  else
    match st.aliases.lookup name with
    | some value =>
      if verbose then some s!"{name} is an alias for {value}"
      else some s!"alias {name}={quotedWord value}"
    | none =>
      if (st.functions.lookup name).isSome && !specialCommands.contains name then
        say "a shell function"
      else if shellCommands.contains name then
        say (if specialCommands.contains name then "a special shell builtin"
          else "a shell builtin")
      else if name.contains '/' then
        if st.files.contains name then some (if verbose then s!"{name} is {name}" else name)
        else none
      else
        let tracked := directories.isNone && (st.found.lookup name).isSome
        let path :=
          match directories with
          | some directories => searchPath st.files directories name
          | none => st.findProgram name
        match path with
        | .ok path =>
          let kind := if tracked then "a tracked alias for " else ""
          some (if verbose then s!"{name} is {kind}{path}" else path)
        | .error _ => none

/-- Remembers the path of a program if it is one that names lead to. -/
def rememberFound (st : State) (name : String) : State :=
  let other := name.contains '/' || reservedWords.contains name || shellCommands.contains name ||
    (st.aliases.lookup name).isSome || (st.functions.lookup name).isSome
  match if other then .error .notFound else st.findProgram name with
  | .ok path => st.remember name path
  | .error _ => st

/-- Says what a name stands for. -/
def describe (st : State) (verbose : Bool) (directories : Option String) (name : String) : State :=
  match st.describe? verbose directories name with
  | some text =>
    (if directories.isNone then st.rememberFound name else st).print (text ++ "\n")
  | none => (if verbose then st.print s!"{name}: not found\n" else st).done 127

/-- Says what names stand for. -/
def describeAll (st : State) (names : List String) : State :=
  names.foldl (fun st name => st.describe true none name) (st.done 0)

/-- The size of the table of programs that have been found. -/
def programTableSize : Nat := 31

/-- Forgets, lists or looks up programs. -/
def changeFound (st : State) (arguments : List String) : State :=
  st.withOptions "hash" "r" arguments fun given =>
    if given.has 'r' then { st.done 0 with found := [] }
    else if given.rest.isEmpty then
      let lines := (tableOrder programTableSize st.found).map fun entry => entry.2 ++ "\n"
      st.emitText "hash" (String.join lines) 0
    else
      given.rest.foldl
        (fun st name =>
          let st := { st with found := st.found.filter fun entry => entry.1 != name }
          if name.contains '/' || shellCommands.contains name
            || (st.functions.lookup name).isSome then st
          else
            match st.findProgram name with
            | .ok path => st.remember name path
            | .error e => (st.complain s!"{name}: {missingText e}").done 1)
        (st.done 0)

end State

end NodeCoverage.Simulator.Shell
