import NodeCoverage.Simulator.ByteSet
import NodeCoverage.Simulator.Notation
import NodeCoverage.Simulator.Selection

/-!
# Programs

What the programs do, apart from the shell: each reads its input, changes files, and
writes its output and its complaints. A name leads to a program through the usual directory, or as
a path.
-/

namespace NodeCoverage.Simulator

/-- The directory that a name without a slash is looked up in. -/
def searchDirectory : String := "/bin"

/-- The program that a name stands for. -/
def FileSystem.executable (fs : FileSystem) (name : String) : Except OsError Program := do
  let path := if name.contains '/' then name else searchDirectory ++ "/" ++ name
  if name.isEmpty then .error .notFound
  else
    match ← fs.find path with
    | .program p => .ok p
    | .file _ | .device | .directory _ => .error .permissionDenied

/-- What a program finds when it is run. -/
structure Surroundings where
  /-- The name that it is called by. -/
  name : String
  files : FileSystem
  /-- What it can read, if its input is open. -/
  input : Option (List UInt8)
  /-- The file that its input comes from, if it is one. -/
  inputPlace : Option Place
  /-- Whether its output is open. -/
  writable : Bool
  /-- The file that its output goes to, if it is one. -/
  outputPlace : Option Place
  passed : List (String × String)

/-- What a program does. -/
structure Effect where
  /-- The name that its complaints begin with. -/
  name : String
  files : FileSystem
  status : Nat := 0
  /-- What it writes, in order, with the descriptors that it writes to. -/
  written : List (Nat × List UInt8) := []
  /-- How many microseconds it sleeps before it ends, if it does. -/
  slept : Option Nat := none

namespace Effect

/-- Writes bytes to a descriptor. -/
def write (e : Effect) (descriptor : Nat) (bytes : List UInt8) : Effect :=
  { e with written := e.written ++ [(descriptor, bytes)] }

/-- Writes a text to the output. -/
def print (e : Effect) (text : String) : Effect :=
  e.write 1 (Text.utf8 text)

/-- Writes a line to the output. -/
def line (e : Effect) (text : String) : Effect :=
  e.print (text ++ "\n")

/-- Writes a line where complaints go, and fails in the end. -/
def remark (e : Effect) (text : String) : Effect :=
  { e.write 2 (Text.utf8 (text ++ "\n")) with status := 1 }

/-- Complains, and fails in the end. -/
def complain (e : Effect) (text : String) : Effect :=
  e.remark s!"{e.name}: {text}"

/-- Says where to find help. -/
def hint (e : Effect) : Effect :=
  e.remark s!"Try '{e.name} --help' for more information."

/-- Complains about how the program was called. -/
def misuse (e : Effect) (text : String) (status : Nat := 1) : Effect :=
  { (e.complain text).hint with status := status }

/-- Goes on with the files that an operation leaves, or complains. -/
def attempt (e : Effect) (what : String) (result : Except OsError FileSystem) : Effect :=
  match result with
  | .ok files => { e with files := files }
  | .error refusal => e.complain s!"{what}: {refusal.reason}"

end Effect

/-! ## Arguments -/

/-- The options among arguments, and the rest. After two hyphens nothing is an option. -/
def splitOptions : List String → List String × List String
  | [] => ([], [])
  | "--" :: rest => ([], rest)
  | a :: rest =>
    let (options, others) := splitOptions rest
    if a.startsWith "-" && a ≠ "-" then (a :: options, others) else (options, a :: others)

/-- The options in front of the first argument that is none, and the rest. -/
def leadingOptions : List String → List String × List String
  | [] => ([], [])
  | "--" :: rest => ([], rest)
  | a :: rest =>
    if a.startsWith "-" && a ≠ "-" then
      let (options, others) := leadingOptions rest
      (a :: options, others)
    else ([], a :: rest)

/-- What is wrong with options of which all letters should be among some. -/
def badOption? (allowed : List Char) (options : List String) : Option String :=
  options.findSome? fun o =>
    if o.startsWith "--" then some s!"unrecognized option '{o}'"
    else
      let bad := (o.toList.drop 1).find? fun c => !allowed.contains c
      bad.map fun c => s!"invalid option -- '{c}'"

/-- The microseconds that a text stands for: a number of seconds, perhaps with a letter for another
unit. A day that is never over takes the place of what has no end. -/
def microseconds? (s : String) : Option Nat := do
  let (v, _, rest) ← Double.Value.readUnsigned false s.toList
  let unit ←
    match rest with
    | [] | ['s'] => some 1
    | ['m'] => some 60
    | ['h'] => some 3600
    | ['d'] => some 86400
    | _ => none
  match v with
  | .finite _ m e =>
    let (num, den) := Double.Value.fraction m e
    some (num * 1000000 * unit / den)
  | .infinite _ => some 86400000000
  | .undefined _ => none

/-- The last name of a path. -/
def Path.last (path : String) : String :=
  match (path.splitOn "/").filter (· ≠ "") with
  | [] => if path.isEmpty then "" else "/"
  | parts => parts.getLastD ""

/-- A path without its last name. -/
def Path.parent (path : String) : String :=
  let strip := fun cs : List Char => cs.dropWhile (· = '/')
  let reversed := path.toList.reverse
  match strip ((strip reversed).dropWhile (· ≠ '/')) with
  | [] => if path.startsWith "/" then "/" else "."
  | parent => String.ofList parent.reverse

/-- A name without an ending, unless nothing would be left. -/
def withoutEnding (name ending : String) : String :=
  if name.endsWith ending && name ≠ ending then (name.dropEnd ending.length).toString else name

/-! ## Programs -/

namespace Program

/-- What a path leads to, a hyphen standing for the input. -/
def content (s : Surroundings) (path : String) : Except OsError (List UInt8) :=
  if path = "-" then (s.input.map .ok).getD (.error .badDescriptor) else s.files.read path

/-- Goes through the contents of files, or of the input if there are no paths. -/
def eachContent (s : Surroundings) (e : Effect) (paths : List String)
    (refuse : Effect → String → OsError → Effect)
    (take : Effect → String → List UInt8 → Effect) : Effect :=
  (if paths.isEmpty then ["-"] else paths).foldl
    (fun e path =>
      match content s path with
      | .ok bytes => take e path bytes
      | .error refusal => refuse e path refusal)
    e

/-- Writes files one after another, but not the file that is written to into itself. -/
def writeFiles (s : Surroundings) (e : Effect) (paths : List String) : Effect :=
  let placeOf := fun (path : String) =>
    if path = "-" then s.inputPlace else (s.files.resolve path).toOption
  if !s.writable then e.complain s!"standard output: {OsError.badDescriptor.reason}"
  else
  let after := eachContent s e paths
    (fun e path refusal => e.complain (Text.word path ++ ": " ++ refusal.reason))
    (fun e path bytes =>
      if !bytes.isEmpty && s.outputPlace.isSome && placeOf path = s.outputPlace then
        e.complain (Text.word path ++ ": input file is output file")
      else e.write 1 bytes)
  if s.input.isNone && (paths.isEmpty || paths.contains "-") then
    after.complain s!"closing standard input: {OsError.badDescriptor.reason}"
  else after

/-- Makes directories, with those on the way there if `parents`. -/
def makeDirectories (e : Effect) (parents : Bool) (paths : List String) : Effect :=
  paths.foldl
    (fun e path =>
      let what := "cannot create directory " ++ Text.quotedWord path
      if parents then
        let parts := path.splitOn "/"
        let steps := (List.range parts.length).map fun n => "/".intercalate (parts.take (n + 1))
        let made := fun (fs : FileSystem) (step : String) =>
          if step.isEmpty || (fs.enter step).toBool then .ok fs else fs.makeDirectory step
        e.attempt what (steps.foldlM made e.files)
      else e.attempt what (e.files.makeDirectory path))
    e

/-- Lists files, and then the names in directories, of which `shown` are listed after `more`. -/
def listAll (e : Effect) (shown : String → Bool) (more paths : List String) : Effect :=
  let sorted := (if paths.isEmpty then ["."] else paths).mergeSort fun a b => a ≤ b
  let found := sorted.map fun path => (path, e.files.find path)
  let missed := found.foldl
    (fun e (path, result) =>
      match result with
      | .ok _ => e
      | .error refusal =>
        let what := s!"cannot access {Text.quotedWord path}"
        { e.complain s!"{what}: {refusal.reason}" with status := 2 })
    e
  let there := found.filterMap fun (path, result) => result.toOption.map (path, ·)
  let (directories, files) := there.partition fun (_, entry) => entry.isDirectory
  let lines (names : List String) : String := String.join (names.map (· ++ "\n"))
  let listing (path : String) (entry : Entry) : String :=
    let heading := if 1 < paths.length then s!"{path}:\n" else ""
    heading ++ lines (more ++ entry.names.filter shown)
  let plain := if files.isEmpty then [] else [lines (files.map Prod.fst)]
  let blocks := plain ++ directories.map fun (path, entry) => listing path entry
  missed.print ("\n".intercalate blocks)

/-- What a letter counts in some bytes: lines, words or bytes. -/
def tally (letter : Char) (bytes : List UInt8) : Nat :=
  let isBlank : UInt8 → Bool := fun b => b = 32 || (9 ≤ b && b ≤ 13)
  match letter with
  | 'l' => bytes.count 10
  | 'w' => ((true :: bytes.map isBlank).zip (bytes.map isBlank)).count (true, false)
  | _ => bytes.length

/-- Counts the input, or a file. -/
def countIn (s : Surroundings) (e : Effect) (letter : Char) (paths : List String) : Effect :=
  eachContent s e (paths.take 1)
    (fun e path refusal => e.complain (Text.word path ++ ": " ++ refusal.reason))
    (fun e path bytes =>
      let n := tally letter bytes
      e.line (if paths.isEmpty then toString n else s!"{n} {path}"))

/-- Takes files away, and directories if `recursive`. -/
def removeAll (e : Effect) (recursive forced : Bool) (paths : List String) : Effect :=
  paths.foldl
    (fun e path =>
      let what := "cannot remove " ++ Text.quotedWord path
      match e.files.find path with
      | .error .notFound => if forced then e else e.complain s!"{what}: {OsError.notFound.reason}"
      | .error refusal => e.complain s!"{what}: {refusal.reason}"
      | .ok found =>
        if found.isDirectory && !recursive then e.complain s!"{what}: {OsError.isDirectory.reason}"
        else e.attempt what (e.files.remove path))
    e

/-- Makes empty files, or changes the time of those that are there. -/
def touchAll (e : Effect) (paths : List String) : Effect :=
  paths.foldl
    (fun e path =>
      match e.files.resolve path with
      | .ok place => { e with files := e.files.stamp place }
      | .error _ =>
        e.attempt ("cannot touch " ++ Text.quotedWord path)
          ((e.files.openForWriting path false).map Prod.snd))
    e

/-- Where a thing goes that is copied or moved to a path: into a directory under its own name. -/
def target (fs : FileSystem) (source path : String) : String :=
  match fs.find path with
  | .ok (.directory _) => path ++ "/" ++ Path.last source
  | _ => path

/-- Copies a thing to a path, and takes it away from where it was if it is `moved`. -/
def transfer (fs : FileSystem) (moved : Bool) (source path : String) :
    Except OsError FileSystem := do
  let place ← fs.resolve source
  let found ← fs.find source
  let goal ← fs.placeFor (target fs source path)
  let isRunnable := fs.runnable.contains place
  if moved then (← fs.remove source).place found goal isRunnable
  else fs.place found goal isRunnable

/-- Copies or moves things to the last path. -/
def transferAll (e : Effect) (moved recursive : Bool) (paths : List String) : Effect :=
  match paths.getLast?, paths.dropLast with
  | some path, source :: more =>
    match if more.isEmpty then .ok e.files else e.files.enter path with
    | .error refusal => e.complain s!"target {Text.quotedWord path}: {refusal.reason}"
    | .ok _ =>
      (source :: more).foldl
        (fun e source =>
          match e.files.find source with
          | .error refusal =>
            e.complain s!"cannot stat {Text.quotedWord source}: {refusal.reason}"
          | .ok found =>
            if found.isDirectory && !moved && !recursive then
              e.complain s!"-r not specified; omitting directory {Text.quotedWord source}"
            else if (e.files.resolve source).toOption ==
                (e.files.resolve (target e.files source path)).toOption then
              e.complain s!"{Text.quotedWord source} and {Text.quotedWord path} are the same file"
            else
              e.attempt s!"cannot create regular file {Text.quotedWord path}"
                (transfer e.files moved source path))
        e
  | _, _ => e

/-- Whether a mode lets a file be run: octal digits with a bit for that, or letters that add it.
Nothing, if the mode says nothing about it. -/
def modeRuns? (mode : String) : Option Bool :=
  let cs := mode.toList
  if !cs.isEmpty && cs.all fun c => '0' ≤ c && c ≤ '7' then
    some (cs.any fun c => (c.toNat - '0'.toNat) % 2 = 1)
  else
    let change := cs.dropWhile fun c => "ugoa".contains c
    match change with
    | '+' :: what | '=' :: what => if what.contains 'x' then some true else none
    | '-' :: what => if what.contains 'x' then some false else none
    | _ => none

/-- Lets files be run or not. -/
def permitAll (e : Effect) (mode : String) (paths : List String) : Effect :=
  paths.foldl
    (fun e path =>
      match e.files.find path, modeRuns? mode with
      | .error refusal, _ =>
        e.complain s!"cannot access {Text.quotedWord path}: {refusal.reason}"
      | .ok _, some isRunnable =>
        e.attempt ("changing permissions of " ++ Text.quotedWord path)
          (e.files.permit path isRunnable)
      | .ok _, none => e)
    e

/-- Writes the front or the end of files, each under a heading if there are several. -/
def extractAll (s : Surroundings) (e : Effect) (front : Bool) (arguments : List String) : Effect :=
  match Selection.ofArguments front arguments with
  | .error why => if why.isMisuse then e.misuse why.message else e.complain why.message
  | .ok chosen =>
    eachContent s e chosen.paths
      (fun e path refusal =>
        e.complain s!"cannot open {Text.quotedWord path} for reading: {refusal.reason}")
      (fun e path bytes =>
        let heading := if chosen.paths.length < 2 then ""
          else if e.written.isEmpty then s!"==> {path} <==\n" else s!"\n==> {path} <==\n"
        let selected :=
          if chosen.byLines then (chosen.extent.select (Lines.split bytes)).flatten
          else chosen.extent.select bytes
        (e.print heading).write 1 selected)

/-- Writes numbers from the first to the last of some arguments, in steps if there are three. -/
def writeNumbers (e : Effect) (arguments : List String) : Effect :=
  match arguments[3]?, arguments.find? fun a => a.toInt?.isNone with
  | some extra, _ => e.misuse ("extra operand " ++ Text.mention extra)
  | none, some a => e.misuse ("invalid floating point argument: " ++ Text.mention a)
  | none, none =>
    match arguments.filterMap String.toInt? with
    | [last] => count 1 1 last
    | [first, last] => count first 1 last
    | [first, step, last] => count first step last
    | _ => e.misuse "missing operand"
where
  /-- Writes the numbers. -/
  count (first step last : Int) : Effect :=
    if step = 0 then e.misuse "invalid Zero increment value: '0'"
    else
      let n := if 0 ≤ (last - first) * step then ((last - first) / step).toNat + 1 else 0
      let lines := (List.range n).map fun (k : Nat) => s!"{first + step * k}\n"
      e.print (String.join lines)

/-- Writes the lines of all files in order. -/
def sortAll (s : Surroundings) (e : Effect) (letters : List Char) (paths : List String) : Effect :=
  let refuse := fun (e : Effect) (path : String) (refusal : OsError) =>
    { e.complain s!"cannot read: {Text.word path}: {refusal.reason}" with status := 2 }
  let gathered := eachContent s e paths refuse fun e _ bytes =>
    e.write 1 ((Lines.split bytes).flatMap Lines.ended)
  let bytes := (gathered.written.filter (·.1 = 1)).flatMap (·.2)
  let lines := (Lines.split bytes).map Lines.body
  let has := letters.contains
  let sorted := Lines.sort (has 'n') (has 'r') (has 'u') lines
  if gathered.status ≠ 0 then { gathered with written := gathered.written.filter (·.1 = 2) }
  else e.write 1 (sorted.flatMap (· ++ [10]))

/-- Writes the lines that something is in, or says in another way whether there are any. -/
def searchAll (s : Surroundings) (e : Effect) (letters : List Char) (text : String)
    (paths : List String) : Effect :=
  let folded := fun (bytes : List UInt8) =>
    if letters.contains 'i' then
      bytes.map fun b => if 65 ≤ b && b ≤ 90 then b + 32 else b
    else bytes
  let wanted := folded (Text.utf8 text)
  let searched : Lines.Search :=
    if letters.contains 'F' then .ofText wanted else .ofExpression wanted
  let searched := if letters.contains 'x' then { searched with atStart := true, atEnd := true }
    else searched
  let opening := fun (path : String) => if 1 < paths.length then path ++ ":" else ""
  let (after, found) := (if paths.isEmpty then ["-"] else paths).foldl
    (fun (e, found) path =>
      match content s path with
      | .error refusal =>
        ({ e.complain s!"{path}: {refusal.reason}" with status := 2 }, found)
      | .ok bytes =>
        let lines := (Lines.split bytes).map Lines.body
        let hits := (lines.zipIdx 1).filter fun (line, _) =>
          searched.isIn (folded line) != letters.contains 'v'
        let e :=
          if letters.contains 'q' then e
          else if letters.contains 'c' then e.line s!"{opening path}{hits.length}"
          else if letters.contains 'l' then if hits.isEmpty then e else e.line path
          else
            hits.foldl
              (fun e (line, n) =>
                let place := if letters.contains 'n' then s!"{n}:" else ""
                ((e.print (opening path ++ place)).write 1 line).write 1 [10])
              e
        (e, found || !hits.isEmpty))
    (e, false)
  if after.status ≠ 0 && !(found && letters.contains 'q') then after
  else { after with status := if found then 0 else 1 }

/-- Writes the values of variables, or all of them with their names. -/
def writeVariables (s : Surroundings) (e : Effect) (names : List String) : Effect :=
  if names.isEmpty then
    s.passed.foldl (fun e (name, value) => e.line (name ++ "=" ++ value)) e
  else
    names.foldl
      (fun e name =>
        match s.passed.lookup name with
        | some value => e.line value
        | none => { e with status := 1 })
      e

/-- Whether a program reads its input. -/
def readsInput (p : Program) (arguments : List String) : Bool :=
  let (options, paths) := splitOptions arguments
  let unnamed := fun (paths : List String) => paths.isEmpty || paths.contains "-"
  match p with
  | .concatenate | .sort => unnamed paths
  | .count => paths.isEmpty
  | .duplicate | .translate => true
  | .search => unnamed (if options.contains "-e" then paths else paths.drop 1)
  | .extract front =>
    match Selection.ofArguments front arguments with
    | .ok chosen => unnamed chosen.paths
    | .error _ => false
  | _ => false

/-- Writes the last name of a path, perhaps without an ending. -/
def writeLastName (e : Effect) (arguments : List String) : Effect :=
  match arguments with
  | [] => e.misuse "missing operand"
  | [path] => e.line (Path.last path)
  | [path, ending] => e.line (withoutEnding (Path.last path) ending)
  | _ :: _ :: extra :: _ => e.misuse ("extra operand " ++ Text.mention extra)

/-- Sleeps for the sum of some times, each of which must be one. -/
def sleepFor (e : Effect) (arguments : List String) : Effect :=
  match arguments.filter fun a => (microseconds? a).isNone with
  | [] => { e with slept := some ((arguments.filterMap microseconds?).foldl (· + ·) 0) }
  | wrong =>
    let complained := wrong.foldl
      (fun e a => e.complain ("invalid time interval " ++ Text.mention a)) e
    complained.hint

/-- Writes bytes, and into files too, at their ends if `appending`. -/
def duplicateInto (e : Effect) (appending : Bool) (bytes : List UInt8) (paths : List String) :
    Effect :=
  let written := paths.foldl
    (fun (e : Effect) path =>
      match e.files.openForWriting path (!appending) with
      | .error refusal => e.complain (Text.word path ++ ": " ++ refusal.reason)
      | .ok (place, files) =>
        let size :=
          match files.root.at? place with
          | some (.file old) => old.length
          | _ => 0
        { e with files := files.writeAt place size bytes })
    e
  written.write 1 bytes

/-- Writes the input with bytes replaced, deleted or squeezed. -/
def translateInput (s : Surroundings) (e : Effect) (letters : List Char) (sets : List String) :
    Effect :=
  match sets[2]?, ByteSet.translated letters sets (s.input.getD []), sets with
  | some extra, _, _ => e.misuse ("extra operand " ++ Text.mention extra)
  | none, some bytes, _ => e.write 1 bytes
  | none, none, [set] =>
    let e := e.complain ("missing operand after " ++ Text.mention set)
    (e.remark "Two strings must be given when translating.").hint
  | none, none, _ => e.misuse "missing operand"

/-- Says how to search, under a name that does not depend on how the program was called. -/
def searchUsage (e : Effect) : Effect :=
  let said := (e.remark "Usage: grep [OPTION]... PATTERNS [FILE]...").remark
    "Try 'grep --help' for more information."
  { said with status := 2 }

/-- The letters of options that searching knows, of which some make no difference here. -/
def searchLetters : List Char :=
  "0123456789ABCDEFGHILPRTUVXZabcdefhilmnoqrsuvwxyz".toList

/-- Runs a program. The shell, the commands that it has as well and the program that runs others do
nothing here; they are a matter of their own. -/
def run (p : Program) (s : Surroundings) (arguments : List String) : Effect :=
  let e : Effect := { name := s.name, files := s.files }
  let (options, others) :=
    match p with
    | .lastName | .translate | .showVariables => leadingOptions arguments
    | _ => splitOptions arguments
  let letters := options.flatMap fun o => o.toList.drop 1
  let has := fun (cs : List Char) => letters.any cs.contains
  let checked (allowed : List Char) (least : Nat) (go : Effect) (status : Nat := 1) : Effect :=
    match badOption? allowed options, others with
    | some text, _ => e.misuse text status
    | none, [] => if least = 0 then go else e.misuse s!"missing {missing p}operand" status
    | none, others@(a :: _) =>
      if least ≤ others.length then go
      else e.misuse ("missing destination file operand after " ++ Text.quotedWord a) status
  match p with
  | .succeed | .shell | .command _ | .withVariables => e
  | .fail => { e with status := 1 }
  | .sleep => checked [] 1 (sleepFor e others)
  | .print =>
    match arguments with
    | "-n" :: words => e.print (" ".intercalate words)
    | words => e.line (" ".intercalate words)
  | .concatenate => checked ['u'] 0 (writeFiles s e others)
  | .lastName => checked [] 1 (writeLastName e others)
  | .parentName => checked [] 1 (others.foldl (fun e path => e.line (Path.parent path)) e)
  | .list =>
    let shown := fun (name : String) => has ['A', 'a'] || !name.startsWith "."
    let more := if has ['a'] then [".", ".."] else []
    checked ['1', 'A', 'a'] 0 (listAll e shown more others) 2
  | .count =>
    match letters with
    | [letter] => checked ['l', 'w', 'c'] 0 (countIn s e letter others)
    | _ => checked [] 0 (countIn s e 'l' others)
  | .touch => checked [] 1 (touchAll e others)
  | .makeDirectory => checked ['p'] 1 (makeDirectories e (has ['p']) others)
  | .remove =>
    let least := if has ['f'] then 0 else 1
    checked ['f', 'r', 'R'] least (removeAll e (has ['r', 'R']) (has ['f']) others)
  | .removeDirectory =>
    let removed := others.foldl
      (fun e path =>
        e.attempt ("failed to remove " ++ Text.quotedWord path) (e.files.removeDirectory path))
      e
    checked [] 1 removed
  | .copy => checked ['r', 'R', 'a', 'f', 'p'] 2 (transferAll e false (has ['r', 'R', 'a']) others)
  | .move => checked ['f'] 2 (transferAll e true true others)
  | .permit =>
    match arguments with
    | mode :: path :: more => permitAll e mode (path :: more)
    | [mode] => e.misuse ("missing operand after " ++ Text.mention mode)
    | [] => e.misuse "missing operand"
  | .extract front => extractAll s e front arguments
  | .enumerate =>
    match arguments with
    | "--" :: rest => writeNumbers e rest
    | a :: _ =>
      let isNumber := (a.toList.drop 1).head?.any fun c => c.isDigit || c = '.'
      match if isNumber then none else badOption? [] (leadingOptions [a]).1 with
      | some text => e.misuse text
      | none => writeNumbers e arguments
    | [] => writeNumbers e []
  | .duplicate => checked ['a', 'i'] 0 (duplicateInto e (has ['a']) (s.input.getD []) others)
  | .sort => checked ['n', 'r', 'u'] 0 (sortAll s e letters others) 2
  | .search =>
    match badOption? searchLetters options, others with
    | some text, _ => searchUsage (e.complain text)
    | none, text :: paths => searchAll s e letters text paths
    | none, [] => searchUsage e
  | .translate => checked ['c', 'C', 'd', 's'] 1 (translateInput s e letters others)
  | .showVariables =>
    match badOption? [] options with
    | some text => e.misuse text 2
    | none => writeVariables s e others
where
  /-- What operands are missing, if one says so. -/
  missing : Program → String
    | .copy | .move | .touch => "file "
    | _ => ""

end Program

end NodeCoverage.Simulator
