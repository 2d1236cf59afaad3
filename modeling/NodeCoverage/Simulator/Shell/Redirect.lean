import NodeCoverage.Simulator.Shell.State

/-!
# Redirections

What a descriptor leads to after a file was opened for it, or after it became a copy of another.
-/

namespace NodeCoverage.Simulator.Shell

namespace State

/-- The descriptor that a path stands for. -/
def descriptorOf? (path : String) : Option Nat :=
  match path with
  | "/dev/stdin" => some 0
  | "/dev/stdout" => some 1
  | "/dev/stderr" => some 2
  | path =>
    if path.startsWith "/dev/fd/" || path.startsWith "/proc/self/fd/" then
      ((path.splitOn "/").getLast?).bind String.toNat?
    else none

/-- Opens a file for a descriptor. -/
def openFile (st : State) (descriptor : Nat) (d : Direction) (path : String) :
    Except String State :=
  let lost := fun (e : OsError) => e = .notFound || e = .notDirectory
  let refuseWriting := fun (e : OsError) =>
    let why := if lost e then "Directory nonexistent" else e.reason
    Except.error s!"cannot create {path}: {why}"
  let refuseReading := fun (e : OsError) =>
    let why := if lost e then "No such file" else e.reason
    Except.error s!"cannot open {path}: {why}"
  let isFile := match st.files.find path with
    | .ok (.file _) | .ok (.program _) => true
    | _ => false
  let writing := fun (emptied append : Bool) =>
    match st.files.openForWriting path emptied with
    | .error e => refuseWriting e
    | .ok (place, files) =>
      .ok ({ st with files := files }.openStream descriptor (.file place 0 append))
  let again : Option (Except String State) := do
    let n ← descriptorOf? path
    match st.stream? n with
    | none => some (if d = .input then refuseReading .notFound else refuseWriting .notFound)
    | some (_, .file place _ _) =>
      let emptied := d = .output || d = .overwrite
      let files := if emptied then
          ((st.files.openForWriting ("/" ++ "/".intercalate place) true).toOption.map
            Prod.snd).getD st.files
        else st.files
      let append := d = Direction.append
      some (.ok ({ st with files := files }.openStream descriptor (.file place 0 append)))
    | some (k, _) => some (.ok (st.connect descriptor k))
  let opened : Except String State :=
    match d with
    | .output =>
      if st.has .keepFiles && isFile then refuseWriting .alreadyThere else writing true false
    | .overwrite => writing true false
    | .append => writing false true
    | .inputOutput => writing false false
    | .input =>
      match st.files.resolve path with
      | .error e => refuseReading e
      | .ok place => .ok (st.openStream descriptor (.file place 0 false))
    | .copy =>
      if path = "-" then .ok (st.close descriptor)
      else if path = toString descriptor then .ok st
      else
        match st.stream? (digitsValue path.toList) with
        | some (n, _) => .ok (st.connect descriptor n)
        | none => .error s!"{path}: Bad file descriptor"
    | .document _ => .ok (st.openStream descriptor (.pipe (Text.utf8 path)))
  match d with
  | .copy | .document _ => opened
  | _ => again.getD opened

/-- The text of a word in which nothing changes the shell when it is expanded. -/
def plainText? (st : State) (w : Word) : Option String :=
  String.join <$> w.mapM fun
    | .char c _ => some c.toString
    | .quotes => some ""
    | .parameter p _ => some ((st.value? p).getD "")
    | _ => none

/-- Opens the files that some redirections write to, which are made and emptied by that. -/
def openTargets (st : State) (rs : List Redirection) : State :=
  rs.foldl
    (fun st r =>
      match r.direction, st.plainText? r.target with
      | .output, some path | .overwrite, some path | .append, some path =>
        match st.openFile r.descriptor r.direction path with
        | .ok opened => { st with files := opened.files }
        | .error _ => st
      | _, _ => st)
    st

/-- Opens the files that the later stages of a pipeline write to before a program runs as its first
one, which takes longer to start than they do. -/
def openAhead (st : State) (isProgram : String → Bool) (stages : List Command) : State :=
  match stages with
  | .simple _ _ (name :: _) _ :: later =>
    if !st.has .keepFiles && (st.plainText? name).any isProgram then
      later.foldl
        (fun st c =>
          match c with
          | .simple _ _ _ rs | .redirected _ _ rs => st.openTargets rs
          | _ => st)
        st
    else st
  | _ => st

/-- Writes a text to the descriptor for complaints, as it was before some redirections. -/
def writeTrace (st before : State) (text : String) : State :=
  let written := { st with descriptors := before.descriptors }.write 2 (Text.utf8 text)
  { written with descriptors := st.descriptors }

/-- Shows lines of a script, if there is a switch for that. -/
def writeVerbose (st : State) (lines : List String) : State :=
  if st.has .verbose then st.write 2 (Text.utf8 (String.join lines)) else st

end State

end NodeCoverage.Simulator.Shell
