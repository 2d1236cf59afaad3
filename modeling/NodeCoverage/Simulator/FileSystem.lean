import NodeCoverage.Text.Utf8

/-!
# File systems

The files that programs can see, as a tree. A path is resolved from the root or from a working
directory, and each way in which that can fail is a cause.
-/

namespace NodeCoverage.Simulator

/-- Why an operation is refused. -/
inductive OsError where
  | notFound
  | notDirectory
  | isDirectory
  | nameTooLong
  | permissionDenied
  | alreadyThere
  | notEmpty
  | badDescriptor
  | networkUnreachable
  deriving DecidableEq, Repr

namespace OsError

/-- What is wrong, in words. -/
def reason : OsError → String
  | .notFound => "No such file or directory"
  | .notDirectory => "Not a directory"
  | .isDirectory => "Is a directory"
  | .nameTooLong => "File name too long"
  | .permissionDenied => "Permission denied"
  | .alreadyThere => "File exists"
  | .notEmpty => "Directory not empty"
  | .badDescriptor => "Bad file descriptor"
  | .networkUnreachable => "Network is unreachable"

/-- The number of the error. -/
def number : OsError → Nat
  | .notFound => 2
  | .notDirectory => 20
  | .isDirectory => 21
  | .nameTooLong => 36
  | .permissionDenied => 13
  | .alreadyThere => 17
  | .notEmpty => 39
  | .badDescriptor => 9
  | .networkUnreachable => 101

/-- The text of the refusal. -/
def message (e : OsError) : String :=
  s!"{e.reason} (os error {e.number})"

end OsError

/-- A program that is there to be run. -/
inductive Program where
  | shell
  | succeed
  | fail
  | sleep
  /-- Writes files one after another. -/
  | concatenate
  /-- Writes the last name of a path. -/
  | lastName
  /-- Writes a path without its last name. -/
  | parentName
  /-- Makes empty files. -/
  | touch
  | makeDirectory
  | remove
  /-- Writes its arguments. -/
  | print
  /-- Writes the names in directories. -/
  | list
  /-- Counts lines, words or bytes. -/
  | count
  | removeDirectory
  | copy
  | move
  /-- Lets files be run or not. -/
  | permit
  /-- Writes the front or the end of files. -/
  | extract (front : Bool)
  /-- Writes numbers one after another. -/
  | enumerate
  /-- Writes its input, and into files too. -/
  | duplicate
  | sort
  /-- Writes the lines that something is in. -/
  | search
  /-- Replaces bytes. -/
  | translate
  /-- Writes the values of variables. -/
  | showVariables
  /-- Runs a program with other variables. -/
  | withVariables
  /-- A command that shells have as well. -/
  | command (name : String)
  deriving DecidableEq, Repr

/-- A thing in the file system. -/
inductive Entry where
  | file (content : List UInt8)
  | program (p : Program)
  /-- A file that drops what is written to it. -/
  | device
  | directory (entries : List (String × Entry))
  deriving Repr, Inhabited

/-- A place in the tree: the names that lead there from the root. -/
abbrev Place := List String

namespace Entry

/-- The thing of a name in a directory. -/
def child? (e : Entry) (name : String) : Option Entry :=
  match e with
  | .directory entries => entries.lookup name
  | _ => none

/-- Whether it is a directory. -/
def isDirectory : Entry → Bool
  | .directory _ => true
  | _ => false

/-- Whether it is a device. -/
def isDevice : Entry → Bool
  | .device => true
  | _ => false

/-- Whether it can be run, or entered. -/
def isExecutable : Entry → Bool
  | .program _ | .directory _ => true
  | _ => false

/-- Whether there is something in it. -/
def isFilled : Entry → Bool
  | .file content => !content.isEmpty
  | .program _ | .directory _ => true
  | .device => false

/-- The bytes that a program is stored as, which are no text. -/
def programImage : List UInt8 :=
  [127, 69, 76, 70, 2, 1, 1, 0, 255, 41, 10]

/-- What reading it gives, if it can be read. -/
def content? : Entry → Option (List UInt8)
  | .file content => some content
  | .program _ => some programImage
  | .device => some []
  | .directory _ => none

/-- The names in a directory, in order. -/
def names : Entry → List String
  | .directory entries => (entries.map Prod.fst).mergeSort fun a b => a ≤ b
  | _ => []

/-- The thing at a place. -/
def at? : Entry → Place → Option Entry
  | e, [] => some e
  | e, name :: rest => (e.child? name).bind (·.at? rest)

/-- Puts a thing at a place, if its parent is a directory. -/
def put? (e : Entry) (new : Entry) : Place → Option Entry
  | [] => some new
  | name :: rest =>
    match e with
    | .directory entries =>
      match entries.lookup name, rest with
      | none, [] => some (.directory (entries ++ [(name, new)]))
      | none, _ :: _ => none
      | some inner, rest =>
        (put? inner new rest).map fun changed =>
          .directory (entries.map fun entry => if entry.1 == name then (name, changed) else entry)
    | _ => none

/-- Takes the thing at a place away. -/
def erase (e : Entry) : Place → Entry
  | [] => e
  | [name] =>
    match e with
    | .directory entries => .directory (entries.filter fun entry => entry.1 != name)
    | e => e
  | name :: rest =>
    match e with
    | .directory entries =>
      match entries.lookup name with
      | some inner =>
        let changed := erase inner rest
        .directory (entries.map fun entry => if entry.1 == name then (name, changed) else entry)
      | none => e
    | e => e

/-- Puts a thing at a place, and makes the directories on the way there. -/
def mount (new : Entry) : Place → Entry → Entry
  | [], _ => new
  | name :: rest, e =>
    let entries :=
      match e with
      | .directory entries => entries
      | _ => []
    let inner := mount new rest ((entries.lookup name).getD (.directory []))
    .directory ((name, inner) :: entries.filter fun entry => entry.1 != name)

end Entry

/-- The longest name of a thing, in bytes. -/
def nameLimit : Nat := 255

/-- Paths have fewer bytes than this. -/
def pathLimit : Nat := 4096

/-- A file system: its tree, and the working directory of whoever looks at it. -/
structure FileSystem where
  root : Entry
  working : Place
  /-- The time in microseconds, from the moment when the first files were there. -/
  now : Nat := 1
  /-- When things were changed after that, the last change first. -/
  changes : List (Place × Nat) := []
  /-- The files that may be run. -/
  runnable : List Place := []

namespace FileSystem

/-- One step along a path. A step from anything but a directory fails. -/
def step (fs : FileSystem) (place : Place) (name : String) : Except OsError Place :=
  match fs.root.at? place with
  | some (.directory entries) =>
    if name = "" ∨ name = "." then .ok place
    else if name = ".." then .ok place.dropLast
    else if nameLimit < name.utf8ByteSize then .error .nameTooLong
    else if (entries.lookup name).isSome then .ok (place ++ [name])
    else .error .notFound
  | some _ => .error .notDirectory
  | none => .error .notFound

/-- The place that a path leads to. -/
def resolve (fs : FileSystem) (path : String) : Except OsError Place :=
  if path.isEmpty then .error .notFound
  else if pathLimit ≤ path.utf8ByteSize then .error .nameTooLong
  else
    let start := if path.startsWith "/" then [] else fs.working
    (path.splitOn "/").foldlM fs.step start

/-- The thing that a path leads to. -/
def find (fs : FileSystem) (path : String) : Except OsError Entry := do
  let place ← fs.resolve path
  match fs.root.at? place with
  | some e => .ok e
  | none => .error .notFound

/-- Whether a path leads anywhere. -/
def contains (fs : FileSystem) (path : String) : Bool :=
  !path.contains '\x00' && (fs.find path).toBool

/-- When the thing at a place was changed. -/
def changed (fs : FileSystem) (place : Place) : Nat :=
  (fs.changes.lookup place).getD 0

/-- Notes that the thing at a place changes now. -/
def stamp (fs : FileSystem) (place : Place) : FileSystem :=
  { fs with changes := (place, fs.now) :: fs.changes.filter fun change => change.1 != place }

/-- Notes that a name comes to a place or goes from it. -/
def stampName (fs : FileSystem) (place : Place) : FileSystem :=
  (fs.stamp place).stamp place.dropLast

/-- The bytes of a file. -/
def read (fs : FileSystem) (path : String) : Except OsError (List UInt8) := do
  match (← fs.find path).content? with
  | some content => .ok content
  | none => .error .isDirectory

/-- The same files, seen from another working directory. -/
def enter (fs : FileSystem) (path : String) : Except OsError FileSystem := do
  let place ← fs.resolve path
  match fs.root.at? place with
  | some (.directory _) => .ok { fs with working := place }
  | some _ => .error .notDirectory
  | none => .error .notFound

/-- The place for a file of a path, which need not be there yet. -/
def placeFor (fs : FileSystem) (path : String) : Except OsError Place :=
  if path.isEmpty then .error .notFound
  else match fs.resolve path with
  | .ok place => .ok place
  | .error .notFound => do
    let parts := path.splitOn "/"
    let parent ← (parts.dropLast).foldlM fs.step (if path.startsWith "/" then [] else fs.working)
    match fs.root.at? parent, parts.getLast? with
    | some (.directory _), some name =>
      if name = "" then .error .isDirectory else .ok (parent ++ [name])
    | some _, _ => .error .notDirectory
    | none, _ => .error .notFound
  | .error e => .error e

/-- Opens a file for writing: the place of the file, which is made if need be and loses what it
holds if `emptied`. -/
def openForWriting (fs : FileSystem) (path : String) (emptied : Bool) :
    Except OsError (Place × FileSystem) := do
  let place ← fs.placeFor path
  match fs.root.at? place with
  | some (.file _) =>
    if emptied then
      match fs.root.put? (.file []) place with
      | some root => .ok (place, { fs with root := root }.stamp place)
      | none => .error .notFound
    else .ok (place, fs)
  | some (.directory _) => .error .isDirectory
  | some (.program _) => .error .permissionDenied
  | some .device => .ok (place, fs)
  | none =>
    match fs.root.put? (.file []) place with
    | some root => .ok (place, { fs with root := root }.stampName place)
    | none => .error .notFound

/-- Writes into the file of a place, from an offset on. -/
def writeAt (fs : FileSystem) (place : Place) (offset : Nat) (bytes : List UInt8) : FileSystem :=
  match fs.root.at? place with
  | some (.file old) =>
    let before := old.take offset ++ List.replicate (offset - old.length) 0
    let content := before ++ bytes ++ old.drop (offset + bytes.length)
    match fs.root.put? (.file content) place with
    | some root => { fs with root := root }.stamp place
    | none => fs
  | _ => fs

/-- Makes a directory. -/
def makeDirectory (fs : FileSystem) (path : String) : Except OsError FileSystem := do
  let trimmed := String.ofList (path.toList.reverse.dropWhile (· = '/')).reverse
  if fs.contains path then .error .alreadyThere
  else
    let place ← fs.placeFor trimmed
    match fs.root.put? (.directory []) place with
    | some root => .ok ({ fs with root := root }.stampName place)
    | none => .error .notFound

/-- Takes a file away, or a directory with all in it. -/
def remove (fs : FileSystem) (path : String) : Except OsError FileSystem := do
  let place ← fs.resolve path
  let kept := fun (p : Place) => !place.isPrefixOf p
  return {
    fs with
    root := fs.root.erase place
    changes := fs.changes.filter fun change => kept change.1
    runnable := fs.runnable.filter kept }.stamp place.dropLast

/-- Takes an empty directory away. -/
def removeDirectory (fs : FileSystem) (path : String) : Except OsError FileSystem := do
  match ← fs.find path with
  | .directory [] => fs.remove path
  | .directory _ => .error .notEmpty
  | _ => .error .notDirectory

/-- Puts a thing at a place, which changes with all in it. -/
def place (fs : FileSystem) (e : Entry) (place : Place) (isRunnable : Bool) :
    Except OsError FileSystem :=
  match fs.root.put? e place with
  | none => .error .notFound
  | some root =>
    let others := fs.runnable.filter (· ≠ place)
    .ok ({ fs with
      root := root
      runnable := if isRunnable then place :: others else others }.stampName place)

/-- Lets a file be run, or not any more. -/
def permit (fs : FileSystem) (path : String) (isRunnable : Bool) : Except OsError FileSystem := do
  let place ← fs.resolve path
  let others := fs.runnable.filter (· ≠ place)
  return { fs with runnable := if isRunnable then place :: others else others }

end FileSystem

end NodeCoverage.Simulator
