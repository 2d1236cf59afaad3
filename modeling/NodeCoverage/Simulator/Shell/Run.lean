import NodeCoverage.Host.ExitStatus
import NodeCoverage.Simulator.Shell.Builtin
import NodeCoverage.Simulator.Shell.Job
import NodeCoverage.Simulator.Shell.Redirect

/-!
# Running shell scripts

Words are expanded and commands are carried out one after another. A pipeline runs its stages in
turn, and what runs in the background runs at once. All functions here take `fuel`, which bounds
how deep they call each other; a script that needs more counts as endless.
-/

namespace NodeCoverage.Simulator.Shell

open Host (ExitStatus)

/-- How a program or a script ended. -/
structure Ending where
  files : FileSystem
  status : ExitStatus
  /-- The files at the moment it first slept, if it did. -/
  asleep : Option FileSystem
  /-- What has been written to its output. -/
  output : List UInt8
  /-- What has been written to where it complains. -/
  errors : List UInt8

namespace State

/-- How the state of a program that has ended looks from outside. -/
def ending (st : State) : Ending :=
  let gathered := fun (n : Nat) => ((st.streams[n]?).map Stream.gathered).getD []
  { files := st.files
    status := (st.killed.map ExitStatus.signal).getD (.code (st.status % 256))
    asleep := st.asleep
    output := gathered 1
    errors := gathered 2 }

/-- A shell that is out of fuel. -/
def exhausted (st : State) : State :=
  { st with flow := .endless }

/-- Ends the shell after a command that failed, if it is to stop then. What is `tested` may fail. -/
def checked (st : State) (tested : Bool) : State :=
  if st.has .stopOnFailure && !tested && st.status != 0 && st.goesOn then st.exit st.status
  else st

/-- The flow after a body inside a loop, and whether the loop goes on. -/
def afterBody (st : State) : State × Bool :=
  match st.flow with
  | .next => (st, true)
  | .breaking n => ({ st with flow := if n ≤ 1 then .next else .breaking (n - 1) }, false)
  | .continuing n =>
    if n ≤ 1 then ({ st with flow := .next }, true)
    else ({ st with flow := .continuing (n - 1) }, false)
  | .returning | .exiting | .failing | .endless => (st, false)

/-- Works out an expression, with what it assigns. -/
def arithmetic (st : State) (text : String) (quoted : Bool) : State × List Piece :=
  match evalArithmetic (fun name => (st.valueOf? name).getD "") text with
  | .ok (n, assigned) =>
    (assigned.foldr (fun (name, value) st => if st.goesOn then st.assign name value else st) st,
      Piece.ofValue quoted (toString n.toInt))
  | .error e => (st.fail (e.message text), [])

/-- The text that a script wrote, without the newlines at its end. -/
def outputText (bytes : List UInt8) : String :=
  let text := textOfBytes bytes
  String.ofList ((text.toList.filter (· ≠ '\x00')).reverse.dropWhile (· = '\n')).reverse

end State

mutual

/-- The pieces of a word, of which plain characters can be split if `splitting`. The arguments stay
`apart` where they can make fields. -/
def expand (fuel : Nat) (apart splitting : Bool) (st : State) (w : Word) : State × List Piece :=
  match fuel with
  | 0 => (st.exhausted, [])
  | fuel + 1 =>
    match w with
    | [] => (st, [])
    | p :: rest =>
      let (st, first) := expandPart fuel apart splitting st p
      if st.goesOn then
        let (st, more) := expand fuel apart splitting st rest
        (st, first ++ more)
      else (st, [])

/-- The pieces of a part. -/
def expandPart (fuel : Nat) (apart splitting : Bool) (st : State) (p : Part) :
    State × List Piece :=
  match fuel with
  | 0 => (st.exhausted, [])
  | fuel + 1 =>
    match p with
    | .char c quoted => (st, [.char c quoted (splitting && !quoted)])
    | .quotes => (st, [.mark])
    | .parameter p quoted =>
      let st := st.refuseUnset p
      (st, st.pieces p quoted)
    | .length p quoted =>
      let st := st.refuseUnset p
      (st, Piece.ofValue quoted (toString ((st.value? p).getD "").utf8ByteSize))
    | .arithmetic text quoted =>
      let (st, ps) := expand fuel false false st (Word.ofText .expression st.textLine text)
      if st.goesOn then st.arithmetic (st.textOf ps) quoted else (st, [])
    | .output script line quoted =>
      let (st, bytes) := capture fuel st line script
      (st, Piece.ofValue quoted (State.outputText bytes))
    | .modified p m orEmpty word quoted =>
      let further :=
        if quoted then Word.ofText .quotedWord st.textLine word
        else st.withHomes false true (Word.ofText .word st.textLine word)
      let present :=
        match st.value? p with
        | none => false
        | some value => !(orEmpty && value.isEmpty)
      match m with
      | .unknown => (st.fail "Bad substitution", [])
      | .fallback =>
        if present then (st, st.pieces p quoted)
        else expand fuel apart (!quoted) st further
      | .alternative =>
        if present then expand fuel apart (!quoted) st further else (st, [])
      | .assign =>
        if present then (st, st.pieces p quoted)
        else
          let (st, ps) := expand fuel false false st further
          let text := st.textOf ps
          match st.goesOn, p with
          | true, .named name => (st.assign name text, Piece.ofValue quoted text)
          | true, p => (st.fail s!"{State.parameterText p}: bad variable name", [])
          | false, _ => (st, [])
      | .require =>
        if present then (st, st.pieces p quoted)
        else if word.isEmpty then
          let ending := if orEmpty then " or null" else ""
          (st.fail s!"{State.parameterText p}: parameter not set{ending}", [])
        else
          let (st, ps) := expand fuel false false st further
          (if st.goesOn then st.fail s!"{State.parameterText p}: {st.textOf ps}" else st, [])
      | .dropHead longest | .dropTail longest =>
        let st := st.refuseUnset p
        let w := st.withHomes false true (Word.ofText .word st.textLine word)
        let (st, ps) := expand fuel false false st w
        let pattern := Pattern.ofGlyphs (st.glyphsOf ps)
        let drop :=
          match m with
          | .dropHead _ => pattern.dropHeads longest
          | _ => pattern.dropTails longest
        let trimmed := fun (values : List String) =>
          (drop (values.map Text.utf8)).map State.textOfBytes
        if apart && p.isApart quoted && !st.arguments.isEmpty then
          let rest := trimmed st.arguments
          (st, Piece.ofValues quoted (if rest.isEmpty then [""] else rest))
        else
          let p := if p = .arguments then .joined else p
          let rest := trimmed [(st.value? p).getD ""]
          (st, Piece.ofValue quoted (rest.headD ""))

/-- What a script writes in a shell of its own, with all that it leaves in the background. Its
lines count from the line of the text around it that it starts on, if there is one. -/
def capture (fuel : Nat) (st : State) (line : Option Nat) (script : String) :
    State × List UInt8 :=
  match fuel with
  | 0 => (st.exhausted, [])
  | fuel + 1 =>
    let n := st.streams.length
    let before := (line.map fun n => st.linesBefore + n - 1).getD 0
    let inner : State := { st.split with linesBefore := before }
    let only := isSimpleText st.aliases script
    let inner := { inner with only := only, reached := 1 }.openStream 1 (.pipe [])
    let inner :=
      match (Source.ofText script).whole st.aliases with
      | .ended => inner.done 0
      | .unsound f => inner.failAt (inner.linesBefore + f.line) f.error
      | .line cs source _ => runAll fuel false { inner with documents := source.documents } cs
    let inner := finish fuel inner
    let left := (inner.jobs.filter fun j => j.status.isNone).map (·.process)
    let inner := await fuel { inner with flow := .next } left
    let bytes :=
      match inner.streams[n]? with
      | some (.pipe content) => content
      | _ => []
    let after := (st.absorb inner).reportDeath inner.killed
    ({ after with status := st.status, substituted := inner.status }, bytes)

/-- The text of a word that is neither split nor a pattern. -/
def expandText (fuel : Nat) (st : State) (w : Word) : State × String :=
  match fuel with
  | 0 => (st.exhausted, "")
  | fuel + 1 =>
    let (st, ps) := expand fuel false false st w
    (st, st.textOf ps)

/-- The fields of words. If `declaring`, an assignment among them is one field. -/
def expandWords (fuel : Nat) (declaring : Bool) (st : State) (ws : List Word) :
    State × List String :=
  match fuel with
  | 0 => (st.exhausted, [])
  | fuel + 1 =>
    match ws with
    | [] => (st, [])
    | w :: rest =>
      let whole := declaring && (assignment? w).isSome
      let homely :=
        if whole then
          let size := w.length - ((assignment? w).map fun a => a.2.length).getD 0
          w.take size ++ st.withHomes true true (w.drop size)
        else st.withHomes false true w
      let (st, ps) := expand fuel true false st homely
      if !st.goesOn then (st, [])
      else
        let fields :=
          if whole then [st.textOf ps]
          else
            let found := splitFields st.separators ps
            if st.has .literalNames then found.map glyphText
            else found.flatMap (expandNames st.files)
        let (st, more) := expandWords fuel declaring st rest
        (st, fields ++ more)

/-- Makes assignments one after another, and gives what the variables were before, the last first,
and the texts of the assignments. They are passed on if `exported`. -/
def makeAssignments (fuel : Nat) (exported : Bool) (before : List (String × Option Binding))
    (texts : List String) (st : State) (as : List (String × Word)) :
    State × List (String × Option Binding) × List String :=
  match fuel with
  | 0 => (st.exhausted, before, texts)
  | fuel + 1 =>
    match as with
    | [] => (st, before, texts)
    | (name, w) :: rest =>
      let (st, value) := expandText fuel st (st.withHomes true true w)
      if !st.goesOn then (st, before, texts)
      else
        let before := (name, st.bindings.lookup name) :: before
        let st := st.assign name value
        let texts := texts ++ [name ++ "=" ++ value]
        if !st.goesOn then (st, before, texts)
        else
          let st := if exported then st.markExported name else st
          makeAssignments fuel exported before texts st rest

/-- Shows a command before it is run, if there is a switch for that. -/
def showCommand (fuel : Nat) (st before : State) (words : List String) : State :=
  match fuel with
  | 0 => st.exhausted
  | fuel + 1 =>
    if !st.has .trace then st
    else
      let opening := Word.ofText .document 1 ((st.valueOf? "PS4").getD "")
      let (st, text) := expandText fuel st opening
      st.writeTrace before (text ++ " ".intercalate words ++ "\n")

/-- Redirects descriptors one after another, or stops with a complaint. Nobody reads the complaint
about a copy if the descriptor for complaints has just been laid `aside` for it. -/
def redirect (fuel : Nat) (aside : Bool) (st : State) (rs : List Redirection) : State × Bool :=
  match fuel with
  | 0 => (st.exhausted, false)
  | fuel + 1 =>
    match rs with
    | [] => (st, true)
    | r :: rest =>
      let w :=
        match r.direction with
        | .document n => (st.documents[n]?.map Document.word).getD []
        | _ => st.withHomes false true r.target
      let (st, text) := expandText fuel st w
      let isCopy := text = "-" || (text.length = 1 && text.toList.all Char.isDigit)
      if !st.goesOn then (st, false)
      else if r.direction = .copy ∧ !isCopy then (st.failAt st.reached .badDescriptor, false)
      else
        match st.openFile r.descriptor r.direction text with
        | .ok st => redirect fuel (aside && r.descriptor != 2) st rest
        | .error text =>
          let unread := aside && r.descriptor = 2 && r.direction = .copy
          ((if unread then st else st.complain text).done 2, false)

/-- Runs a command, and sees to the signals that have come. If it is `tested`, failures in it end
nothing. -/
def run (fuel : Nat) (tested : Bool) (st : State) (c : Command) : State :=
  match fuel with
  | 0 => st.exhausted
  | fuel + 1 =>
    if st.has .readOnly then st else handleSignals fuel (runKind fuel tested st c)

/-- Runs what signals have been set to, and keeps the status. -/
def handleSignals (fuel : Nat) (st : State) : State :=
  match fuel with
  | 0 => st.exhausted
  | fuel + 1 =>
    match st.ownSignals.min? with
    | none => st
    | some signal =>
      if !st.goesOn then st
      else
        let left := st.signals.filter fun s => s != (st.current, signal)
        let st : State := { st with signals := left }
        let after := runText fuel false { st with only := false } ((st.trap? signal).getD "")
        handleSignals fuel (if after.goesOn then after.done st.status else after)

/-- Runs a command of one kind or another. -/
def runKind (fuel : Nat) (tested : Bool) (st : State) (c : Command) : State :=
  match fuel with
  | 0 => st.exhausted
  | fuel + 1 =>
    match c with
    | .simple line assignments words redirections =>
      (runSimple fuel tested { st.atLine line with substituted := 0 } assignments words
        redirections).checked tested
    | .pipeline stages =>
      let isProgram := fun (name : String) =>
        !shellCommands.contains name && (st.functions.lookup name).isNone
      (runStages fuel tested (st.openAhead isProgram stages) none stages).checked tested
    | .negated c =>
      let st := run fuel true st c
      if st.goesOn then st.done (if st.status = 0 then 1 else 0) else st
    | .both first second =>
      let st := run fuel true st first
      if st.goesOn && st.status == 0 then run fuel tested st second else st
    | .either first second =>
      let st := run fuel true st first
      if st.goesOn && st.status != 0 then run fuel tested st second else st
    | .background c => st.putBack c
    | .group body => runAll fuel tested st body
    | .subshell body => (runSubshell fuel tested st body).checked tested
    | .choice condition consequent alternative =>
      let st := runAll fuel true st condition
      if !st.goesOn then st
      else if st.status = 0 then runAll fuel tested st consequent
      else if alternative.isEmpty then st.done 0
      else runAll fuel tested st alternative
    | .loop inverted condition body =>
      let after := runLoop fuel tested inverted 0 { st with loops := st.loops + 1 } condition body
      { after with loops := st.loops }
    | .forEach line name items body =>
      let st := st.atLine line
      let (st, values) :=
        match items with
        | none => (st, st.arguments)
        | some ws => expandWords fuel false st ws
      if !st.goesOn then st
      else
        let after := runEach fuel tested name { st with loops := st.loops + 1 } values body
        { after with loops := st.loops, status := if values.isEmpty then 0 else after.status }
    | .select line subject arms =>
      let st := st.atLine line
      let (st, text) := expandText fuel st (st.withHomes false true subject)
      if st.goesOn then runArms fuel tested text st arms else st
    | .define name body =>
      let others := st.functions.filter fun f => f.1 != name
      { st.done 0 with functions := (name, ⟨body, st.documents, st.linesBefore⟩) :: others }
    | .redirected line c redirections =>
      let aside :=
        match c with
        | .subshell _ => false
        | _ => true
      let (redirected, sound) := redirect fuel aside (st.atLine line) redirections
      let after := if sound then run fuel tested redirected c else redirected.checked tested
      { after with descriptors := st.descriptors }

/-- Runs commands one after another. -/
def runAll (fuel : Nat) (tested : Bool) (st : State) (cs : List Command) : State :=
  match fuel with
  | 0 => st.exhausted
  | fuel + 1 =>
    match cs with
    | [] => st
    | c :: rest =>
      let st := run fuel tested st c
      if st.goesOn then runAll fuel tested st rest else st

/-- Runs commands in a shell of their own. -/
def runSubshell (fuel : Nat) (tested : Bool) (st : State) (cs : List Command) : State :=
  match fuel with
  | 0 => st.exhausted
  | fuel + 1 =>
    let only :=
      match cs with
      | [.simple ..] => true
      | _ => false
    let inner := finish fuel (runAll fuel tested { st.split with only := only } cs)
    (st.absorb inner).reportDeath inner.killed

/-- Lets jobs go on, the one that is first in time at each step. All go on to the time of the shell
at least, and the time of the shell goes on until some jobs have ended. -/
def await (fuel : Nat) (st : State) (wanted : List Nat) : State :=
  match fuel with
  | 0 => st.exhausted
  | fuel + 1 =>
    let st := st.collect
    let steps := st.jobs.filterMap fun j =>
      match j.status, j.rest with
      | none, c :: rest =>
        let after := run fuel false (st.enterJob j) c
        let after := if rest.isEmpty || !after.goesOn then finish fuel after else after
        some (st.leaveJob j after rest, after.files.now)
      | _, _ => none
    let earlier := fun (a b : State × Nat) => if b.2 < a.2 then b else a
    match steps with
    | [] => st
    | first :: more =>
      let (next, time) := more.foldl earlier first
      if !st.goesOn then st
      else if time ≤ st.files.now then await fuel next wanted
      else if wanted.any st.isRunning && st.ownSignals.isEmpty then
        await fuel (next.reach time) wanted
      else st

/-- Runs the stages of a pipeline, the first of which reads from the stream at a place. -/
def runStages (fuel : Nat) (tested : Bool) (st : State) (source : Option Nat)
    (stages : List Command) : State :=
  match fuel with
  | 0 => st.exhausted
  | fuel + 1 =>
    let reading (inner : State) : State :=
      match source with
      | none => inner
      | some n => inner.connect 0 n
    match stages with
    | [] => st
    | [c] =>
      let after := runSubshell fuel tested (reading st) [c]
      { after with descriptors := st.descriptors }
    | c :: rest =>
      let n := st.streams.length
      let after := runSubshell fuel tested ((reading st).openStream 1 (.pipe [])) [c]
      let st := { after with descriptors := st.descriptors, status := st.status }
      if st.goesOn then runStages fuel tested st (some n) rest else st

/-- Runs a loop, which has the status of its last body. -/
def runLoop (fuel : Nat) (tested inverted : Bool) (status : Nat) (st : State)
    (condition body : List Command) : State :=
  match fuel with
  | 0 => st.exhausted
  | fuel + 1 =>
    let tried := runAll fuel true st condition
    let (st, onward) := tried.afterBody
    if !onward then if st.goesOn then st.done status else st
    else if tried.flow ≠ .next then runLoop fuel tested inverted status st condition body
    else if (st.status == 0) == inverted then st.done status
    else
      let (st, onward) := (runAll fuel tested st body).afterBody
      if onward then runLoop fuel tested inverted st.status st condition body else st

/-- Runs a body for each value. -/
def runEach (fuel : Nat) (tested : Bool) (name : String) (st : State) (values : List String)
    (body : List Command) : State :=
  match fuel with
  | 0 => st.exhausted
  | fuel + 1 =>
    match values with
    | [] => st
    | value :: rest =>
      let st := st.assign name value
      if !st.goesOn then st
      else
        let (st, onward) := (runAll fuel tested st body).afterBody
        if onward then runEach fuel tested name st rest body else st

/-- Runs the first body with a pattern that matches. -/
def runArms (fuel : Nat) (tested : Bool) (subject : String) (st : State)
    (arms : List (List Word × List Command)) : State :=
  match fuel with
  | 0 => st.exhausted
  | fuel + 1 =>
    match arms with
    | [] => st.done 0
    | (patterns, body) :: rest =>
      let (st, found) := matchAny fuel subject st patterns
      if !st.goesOn then st
      else if found then if body.isEmpty then st.done 0 else runAll fuel tested st body
      else runArms fuel tested subject st rest

/-- Whether one of some patterns matches. -/
def matchAny (fuel : Nat) (subject : String) (st : State) (patterns : List Word) : State × Bool :=
  match fuel with
  | 0 => (st.exhausted, false)
  | fuel + 1 =>
    match patterns with
    | [] => (st, false)
    | w :: rest =>
      let (st, ps) := expand fuel false false st (st.withHomes false true w)
      if !st.goesOn then (st, false)
      else if (Pattern.ofGlyphs (st.glyphsOf ps)).matchesText subject then (st, true)
      else matchAny fuel subject st rest

/-- Runs a simple command. -/
def runSimple (fuel : Nat) (tested : Bool) (st : State) (assignments : List (String × Word))
    (words : List Word) (redirections : List Redirection) : State :=
  match fuel with
  | 0 => st.exhausted
  | fuel + 1 =>
    let declaring := (words.head?.bind bare?).any declaringCommands.contains
    let (st, fields) := expandWords fuel declaring st words
    if !st.goesOn then st
    else
      let (redirected, sound) := redirect fuel true st redirections
      let closed (after : State) : State := { after with descriptors := st.descriptors }
      match fields with
      | [] =>
        if !sound then closed redirected
        else
          let (after, _, texts) := makeAssignments fuel false [] [] redirected assignments
          let after := if after.goesOn then showCommand fuel after st texts else after
          closed (if after.goesOn then after.done after.substituted else after)
      | name :: arguments =>
        let special := specialCommands.contains name
        if !sound then
          closed (if special && redirected.goesOn then redirected.giveUp else redirected)
        else if special then
          let exported := name = "exec" && !arguments.isEmpty
          let (made, _, texts) := makeAssignments fuel exported [] [] redirected assignments
          if !made.goesOn then made
          else
            let made := showCommand fuel made st (texts ++ fields)
            let after := if made.goesOn then call fuel tested true made name arguments else made
            if name = "exec" then after else closed after
        else
          let (made, before, texts) := makeAssignments fuel true [] [] redirected assignments
          if !made.goesOn then closed made
          else
            let made := showCommand fuel made st (texts ++ fields)
            let after := if made.goesOn then call fuel tested true made name arguments else made
            let restored := before.foldl (fun st (a, b) => st.bind a b) after
            let found := if before.any (·.1 = "PATH") then st.found else restored.found
            closed { restored with found := found }

/-- Carries out a command of which the words are expanded. Functions count if `functions`. -/
def call (fuel : Nat) (tested functions : Bool) (st : State) (name : String)
    (arguments : List String) : State :=
  match fuel with
  | 0 => st.exhausted
  | fuel + 1 =>
    let inside (name : String) (allowed : String) (go : Given → State) : State :=
      let after := { st with context := some name }.withOptions name allowed arguments go
      { after with context := st.context }
    let isFunction := functions && !specialCommands.contains name
    match if isFunction then st.functions.lookup name else none with
    | some d => callFunction fuel tested st d arguments
    | none =>
      match name with
      | "eval" => runIn fuel tested "eval" st (" ".intercalate arguments)
      | "." => inside "." "" fun given =>
        match given.rest with
        | [] => st.done 0
        | path :: _ => runFile fuel tested st path
      | "exec" =>
        match arguments with
        | [] => st.done 0
        | name :: arguments =>
          let st := { st with
            traps := st.traps.filter fun t => t.2.isEmpty
            only := true
            context := some "exec" }
          let after := execute fuel st name arguments
          if after.goesOn then after.exit after.status else after
      | "command" => inside "command" "pvV" fun given =>
        let directories := if given.has 'p' then some standardPath else none
        match given.rest with
        | [] => st.done 0
        | name :: arguments =>
          if given.has 'v' || given.has 'V' then
            (st.done 0).describe (given.has 'V') directories name
          else if given.has 'p' && !shellCommands.contains name && !name.contains '/' then
            match searchPath st.files standardPath name with
            | .ok path => executePath fuel st name path arguments
            | .error e => (st.complain s!"{name}: {missingText e}").done 127
          else
            let after := (call fuel tested false st.openScope name arguments).closeScope st
            if after.flow = .failing then { after with flow := .next } else after
      | "wait" => inside "wait" "" fun given =>
        waitFor fuel { st with context := some "wait" } given.rest
      | name =>
        match st.builtin? name arguments with
        | some after => after
        | none => execute fuel st name arguments

/-- Runs the file of a path for a command, or one that is found in the directories for programs. -/
def runFile (fuel : Nat) (tested : Bool) (st : State) (path : String) : State :=
  match fuel with
  | 0 => st.exhausted
  | fuel + 1 =>
    let isFile := fun (path : String) => (st.files.read path).toBool
    let found : Option String :=
      if path.contains '/' then some path
      else
        (((st.valueOf? "PATH").getD "").splitOn ":").findSome? fun directory =>
          let full := if directory.isEmpty then path else directory ++ "/" ++ path
          if isFile full then some full else none
    let refuse (text : String) : State := { st with context := some "." }.fail text
    match found.map fun full => (full, st.files.read full) with
    | none => refuse s!"{path}: not found"
    | some (_, .error .isDirectory) => st.done 0
    | some (_, .error _) => refuse s!"cannot open {path}: No such file"
    | some (full, .ok bytes) =>
      let text := State.textOfBytes bytes
      let after := runIn fuel tested full st text
      if after.flow = .returning then { after with flow := .next } else after

/-- Waits for jobs, or for all of them, until a signal comes. -/
def waitFor (fuel : Nat) (st : State) (arguments : List String) : State :=
  match fuel with
  | 0 => st.exhausted
  | fuel + 1 =>
    match arguments with
    | [] =>
      let own := (st.jobs.filter fun j => j.number ≠ 0).map (·.process)
      let st := await fuel (st.done 0) own
      match st.ownSignals.getLast? with
      | some signal => st.done (128 + signal)
      | none => { st with jobs := st.jobs.map fun j => { j with waited := true } }
    | text :: rest =>
      let found : Except String (Option Job) :=
        if text.startsWith "%" then (st.job? text).map some
        else
          match integer? false text with
          | some n =>
            if n < 0 then .error s!"Illegal number: {text}"
            else .ok (st.jobs.find? fun j => j.number ≠ 0 && (j.process : Int) = n)
          | none => .error s!"Illegal number: {text}"
      match found with
      | .error why => st.refuse "wait" why
      | .ok none => if rest.isEmpty then st.done 127 else waitFor fuel (st.done 127) rest
      | .ok (some j) =>
        let st := await fuel st [j.process]
        match if st.isRunning j.process then st.ownSignals.getLast? else none with
        | some signal => st.done (128 + signal)
        | none =>
        let ended := (st.jobs.find? fun k => k.process = j.process).getD j
        let st := if ended.waited then st else st.reportDeath ended.signal
        let mark := fun (k : Job) => if k.process = j.process then { k with waited := true } else k
        let st := { st with jobs := st.jobs.map mark }.done (ended.status.getD 127)
        if rest.isEmpty || !st.goesOn then st else waitFor fuel st rest

/-- Calls a function. -/
def callFunction (fuel : Nat) (tested : Bool) (st : State) (d : Definition)
    (arguments : List String) : State :=
  match fuel with
  | 0 => st.exhausted
  | fuel + 1 =>
    if State.callLimit ≤ st.calls then
      st.fail s!"Maximum function recursion depth ({State.callLimit}) reached"
    else
    let after := run fuel tested
      { st.openScope with
        arguments := arguments
        documents := d.documents
        linesBefore := d.linesBefore
        loops := 0
        calls := st.calls + 1
        optionPlace := (1, none)
        only := false }
      d.body
    { after.closeScope st with
      optionPlace := st.optionPlace
      only := st.only
      arguments := st.arguments
      documents := st.documents
      linesBefore := st.linesBefore
      loops := st.loops
      calls := st.calls
      flow := if after.flow = .returning then .next else after.flow }

/-- Runs a program by its name. -/
def execute (fuel : Nat) (st : State) (name : String) (arguments : List String) : State :=
  match fuel with
  | 0 => st.exhausted
  | fuel + 1 =>
    if name.contains '/' then executePath fuel st name name arguments
    else
      match st.findProgram name with
      | .ok path => executePath fuel (st.remember name path) name path arguments
      | .error e => (st.complain s!"{name}: {missingText e}").done 127

/-- Runs a program by its path. A file that no program is named in is a script for the shell. -/
def executePath (fuel : Nat) (st : State) (name path : String) (arguments : List String) : State :=
  match fuel with
  | 0 => st.exhausted
  | fuel + 1 =>
    match runnableAt st.files path with
    | .error e =>
      let lost := e = .notFound || e = .notDirectory || e = .nameTooLong
      (st.complain s!"{name}: {missingText e}").done (if lost then 127 else 126)
    | .ok (.program p) => launch fuel st name p arguments
    | .ok (.script content) =>
      match (State.textOfBytes content).toList with
      | '#' :: '!' :: cs =>
        let line := cs.takeWhile (· ≠ '\n')
        let blank := fun (c : Char) => c = ' ' || c = '\t'
        let words := line.dropWhile blank
        let interpreter := String.ofList (words.takeWhile (!blank ·))
        let option := (words.dropWhile (!blank ·)).dropWhile blank
        let option := (option.reverse.dropWhile blank).reverse
        let arguments := (if option.isEmpty then [] else [String.ofList option]) ++
          path :: arguments
        match runnableAt st.files interpreter with
        | .ok (.program p) => launch fuel st interpreter p arguments
        | .ok (.script _) | .error .permissionDenied =>
          (st.complain s!"{name}: Permission denied").done 126
        | .error _ => (st.complain s!"{name}: not found").done 127
      | _ => launch fuel st "/bin/sh" .shell (path :: arguments)

/-- Runs a program by a name, before which jobs go on that have had the time. -/
def launch (fuel : Nat) (st : State) (name : String) (p : Program) (arguments : List String) :
    State :=
  match fuel with
  | 0 => st.exhausted
  | fuel + 1 =>
    let st := await fuel st []
    let forked := if st.only then st else st.split
    let leave (inner : State) : State :=
      if st.only then { st.absorb inner with killed := inner.killed }
      else (st.absorb inner).reportDeath inner.killed
    match p with
    | .shell => leave (start fuel { forked.child with name := name } arguments)
    | .withVariables =>
      let passed := forked.bindings.filter fun entry => entry.2.exported
      leave (runWith fuel { forked.child with name := name, bindings := passed } arguments)
    | .command builtin =>
      leave (({ forked.child with name := name }.builtin? builtin arguments).getD forked.child)
    | p =>
      let st : State := { st with processes := forked.processes }
      let after := st.perform st.passedOn name p arguments
      let after := if after.files.now = st.files.now then after else await fuel after []
      after.childEnded

/-- Runs a program after options that take variables away, and arguments that set some. -/
def runWith (fuel : Nat) (st : State) (arguments : List String) : State :=
  match fuel with
  | 0 => st.exhausted
  | fuel + 1 =>
    let without (st : State) : State :=
      { st with bindings := st.bindings.filter fun entry => !entry.2.exported }
    let misuse (text : String) : State :=
      ((st.remark s!"{st.name}: {text}").remark
        s!"Try '{st.name} --help' for more information.").done 125
    match arguments with
    | "--" :: rest => runGiven fuel st rest
    | "-" :: rest => runGiven fuel (without st) rest
    | "-i" :: rest => runWith fuel (without st) rest
    | "-u" :: name :: rest => runWith fuel (st.bind name none) rest
    | ["-u"] => misuse "option requires an argument -- 'u'"
    | a :: rest =>
      match if a.startsWith "-" then badOption? ['i', 'u'] [a] else none with
      | some text => misuse text
      | none => runGiven fuel st (a :: rest)
    | [] => runGiven fuel st []

/-- Runs a program for which the first arguments set variables, or shows all variables. -/
def runGiven (fuel : Nat) (st : State) (arguments : List String) : State :=
  match fuel with
  | 0 => st.exhausted
  | fuel + 1 =>
    match arguments with
    | [] => st.perform st.passedOn st.name .showVariables []
    | a :: rest =>
      match a.splitOn "=" with
      | name :: first :: more =>
        let value := "=".intercalate (first :: more)
        runGiven fuel (st.bind name (some { value := some value, exported := true })) rest
      | _ =>
        let directories := (st.valueOf? "PATH").getD "/bin:/usr/bin"
        let found : Except OsError String :=
          if a.isEmpty then .error .notFound
          else if a.contains '/' then (runnableAt st.files a).map fun _ => a
          else searchPath st.files directories a
        match found with
        | .ok path => executePath fuel { st with only := true } a path rest
        | .error e =>
          let said := st.remark s!"{st.name}: {Text.mention a}: {e.reason}"
          if e ≠ .notFound then said.done 126
          else if a.any Char.isWhitespace then
            (said.remark s!"{st.name}: use -[v]S to pass options in shebang lines").done 127
          else said.done 127

/-- Runs the lines of a script. One that is not sound ends the shell. -/
def runLines (fuel : Nat) (tested : Bool) (st : State) (source : Source) : State :=
  match fuel with
  | 0 => st.exhausted
  | fuel + 1 =>
    match source.next st.aliases with
    | .ended => st.writeVerbose source.lines
    | .unsound f => st.failAt (st.linesBefore + f.line) f.error
    | .line cs rest last =>
      let (taken, rest) := rest.takeLines last
      let begun : State := { st.writeVerbose taken with
        documents := rest.documents, reached := rest.reached }
      let st := runAll fuel tested begun cs
      if st.goesOn then runLines fuel tested st rest else st

/-- Runs the rest of a script. One without commands succeeds. -/
def runSource (fuel : Nat) (tested : Bool) (st : State) (source : Source) : State :=
  match fuel with
  | 0 => st.exhausted
  | fuel + 1 =>
    let st :=
      match source.next st.aliases with
      | .ended => st.done 0
      | _ => st
    let after := runLines fuel tested st source
    { after with documents := st.documents, reached := st.reached }

/-- Runs a text. -/
def runText (fuel : Nat) (tested : Bool) (st : State) (text : String) : State :=
  match fuel with
  | 0 => st.exhausted
  | fuel + 1 => runSource fuel tested st (Source.ofText text)

/-- Runs a text for a command, whose lines count from its own start. -/
def runIn (fuel : Nat) (tested : Bool) (context : String) (st : State) (text : String) : State :=
  match fuel with
  | 0 => st.exhausted
  | fuel + 1 =>
    let source := Source.ofText text
    let source := if context = "eval" then source else source.withLines text
    let inner : State := { st with context := some context, linesBefore := 0, only := false }
    let after := runSource fuel tested inner source
    { after with context := st.context, linesBefore := st.linesBefore, only := st.only }

/-- Ends a shell, which runs what has been left for its end. What is in the background goes on if
it takes no time. -/
def finish (fuel : Nat) (st : State) : State :=
  match fuel with
  | 0 => st.exhausted
  | fuel + 1 =>
    match st.flow, st.killed, st.trap? 0 with
    | .endless, _, _ => st
    | _, none, some text =>
      let traps := st.traps.filter fun t => t.1 ≠ 0
      let after := runText fuel false
        { st with traps := traps, flow := .next, only := false } text
      leaveJobs fuel (if after.flow = .next then after.done st.status else after)
    | _, _, _ => leaveJobs fuel st

/-- Lets the jobs of a shell that ends go on, as far as they take no time. -/
def leaveJobs (fuel : Nat) (st : State) : State :=
  match fuel with
  | 0 => st.exhausted
  | fuel + 1 =>
    let after := await fuel { st with flow := .next } []
    { after with flow := if after.flow = .endless then .endless else st.flow, status := st.status }

/-- Starts a shell with options and arguments: a script in its arguments if the options say so,
else the script in a file, and the name and the arguments of the script. -/
def start (fuel : Nat) (st : State) (arguments : List String) : State :=
  match fuel with
  | 0 => st.exhausted
  | fuel + 1 =>
    let refuse (st : State) (text : String) : State := { st with line := 0 }.fail text
    match State.readOptions true arguments.length { st := { st with line := 0 } } arguments with
    | .error text => refuse st text
    | .ok o =>
      let begun : State := { o.st with line := 1 }
      match o.command, o.rest with
      | true, [] => refuse begun "-c requires an argument"
      | true, script :: rest =>
        let only := isSimpleText [] script
        let inner : State := { begun with
          name := rest.headD begun.name, arguments := rest.drop 1, only := only }
        finish fuel (runText fuel false inner script)
      | false, rest =>
        match o.fromInput, rest with
        | false, path :: rest =>
          match begun.files.read path with
          | .error .isDirectory => begun
          | .error _ => refuse begun s!"cannot open {path}: No such file"
          | .ok bytes =>
            let text := State.textOfBytes bytes
            let inner : State := { begun with name := path, arguments := rest }
            finish fuel (runSource fuel false inner ((Source.ofText text).withLines text))
        | _, rest =>
          let text := State.textOfBytes (begun.readable 0)
          let inner : State := { begun with arguments := rest }.turn true .fromInput
          finish fuel (runSource fuel false inner ((Source.ofText text).withLines text))

end

/-- How deep a script may go. -/
def depthLimit : Nat := 50000

/-- The state in which a program ends that gets some variables. Its input is empty, and someone
outside reads what it writes. -/
def afterProgram (files : FileSystem) (passed : List (String × String)) (name : String)
    (p : Program) (arguments : List String) : State :=
  let bindings := passed.map fun (name, value) =>
    (name, { value := some value, exported := true : Binding })
  let outer : State := { files := files, streams := [.nothing, .collected [], .collected []] }
  let outer : State := { outer with
    bindings := initialBindings bindings outer.directory outer.parent, only := true }
  launch depthLimit outer name p arguments

/-- How a program ends. -/
def runProgram (files : FileSystem) (passed : List (String × String)) (name : String)
    (p : Program) (arguments : List String) : Ending :=
  (afterProgram files passed name p arguments).ending

/-- How things are when a program has ended and all that it left in the background as well. -/
def runToSilence (files : FileSystem) (passed : List (String × String)) (name : String)
    (p : Program) (arguments : List String) : Ending :=
  let st := afterProgram files passed name p arguments
  let left := (st.jobs.filter fun j => j.status.isNone).map (·.process)
  let silent := await depthLimit { st with flow := .next } left
  { silent.ending with status := st.ending.status }

end NodeCoverage.Simulator.Shell
