import NodeCoverage.Simulator.Shell.Report

/-!
# Processes

The commands about signals, about jobs in the background, and about what a process gets from the
system: the permissions of new files, its times and its limits.
-/

namespace NodeCoverage.Simulator.Shell

/-- The words for how a job is. -/
def Job.stateText (j : Job) : String :=
  match j.status, j.signal with
  | none, _ => "Running"
  | some _, some signal => Signal.description signal
  | some 0, none => "Done"
  | some status, none => s!"Done({status})"

/-- The line of a job, which is the current one, the one before, or another. -/
def Job.line (j : Job) (mark : String) (withProcess : Bool) : String :=
  let process := if withProcess then s!"{j.process} " else ""
  let text := s!"[{j.number}] {mark} {process}{j.stateText}"
  let stages := String.join (List.replicate (j.stages - 1) " | ")
  text ++ String.ofList (List.replicate (max 1 (33 - text.length)) ' ') ++ stages ++ "\n"

namespace State

/-! ## Signals -/

/-- Sets what is run when signals come, or lists it. -/
def setTraps (st : State) (arguments : List String) : State :=
  st.withOptions "trap" "" arguments fun given =>
    match given.rest with
    | [] =>
      let numbers := (List.range Signal.bound).filterMap fun n => (st.trap? n).map fun a => (n, a)
      let lines := numbers.map fun (n, action) =>
        s!"trap -- {quotedWord action} {Signal.name n}\n"
      st.emitText "trap" (String.join lines) 0
    | first :: more =>
      let isNumber := first.toList.all Char.isDigit && (Signal.ofText? 0 first).isSome
      let (action, signals) : Option String × List String :=
        if more.isEmpty || isNumber then (none, first :: more)
        else (if first = "-" then none else some first, more)
      signals.foldl
        (fun (st : State) text =>
          if st.status ≠ 0 then st
          else
            match Signal.ofText? 0 text with
            | none => (st.remark s!"trap: {text}: bad trap").done 1
            | some n =>
              let others := st.traps.filter fun t => t.1 != n
              { st with traps := (action.map fun a => (n, a)).toList ++ others })
        (st.done 0)

/-- How a command is used that sends signals. -/
def killUsage : String :=
  "Usage: kill [-s sigspec | -signum | -sigspec] [pid | job]... or\nkill -l [exitstatus]"

/-- Writes the names of signals. -/
def listSignals (st : State) (arguments : List String) : State :=
  match arguments with
  | [] =>
    let names := (List.range Signal.bound).map fun n => if n = 0 then "0" else Signal.name n
    st.emitText "kill" (String.join (names.map (· ++ "\n"))) 0
  | text :: _ =>
    st.withNumber "kill" text fun n =>
      let signal := if 128 < n then n - 128 else n
      if 0 < signal && signal < Signal.bound then st.emitText "kill" (Signal.name signal ++ "\n") 0
      else st.refuse "kill" s!"invalid signal number or exit status: {text}"

/-- The job that an argument names, by its number or by how recent it is. -/
def job? (st : State) (text : String) : Except String Job :=
  let own := (st.jobs.filter fun j => j.number ≠ 0).reverse
  let name := String.ofList (text.toList.drop 1)
  let missing : Except String Job := .error s!"No such job: {text}"
  if name.isEmpty || name = "%" || name = "+" then
    (own.head?.map .ok).getD (.error "No current job")
  else if name = "-" then (own[1]?.map .ok).getD (.error "No previous job")
  else if name.toList.all Char.isDigit then
    ((own.find? fun j => toString j.number = name).map .ok).getD missing
  else missing

/-- Ends a job by a signal. -/
def killJob (st : State) (j : Job) (signal : Nat) : State :=
  let ended : Job := { j with status := some (128 + signal), signal := some signal, rest := [] }
  let change := fun (k : Job) => if k.process = j.process then ended else k
  { st with jobs := st.jobs.map change }.childEnded

/-- Sends a signal to a process, if there is one of the number. -/
def signalProcess (st : State) (signal process : Nat) : Option State :=
  if process = st.current then some (st.signalSelf signal)
  else
    match st.jobs.find? fun j => j.process = process with
    | some j =>
      if j.gone then none
      else some (if j.status.isSome || Signal.isIgnored signal then st else st.killJob j signal)
    | none =>
      if process = st.process ∨ process = st.parent then
        some (if signal = 0 then st
          else { st with signals := st.signals ++ [(process, signal)] })
      else none

/-- Sends a signal to the processes of some arguments. -/
def signalAll (st : State) (signal : Nat) (arguments : List String) : State :=
  arguments.foldl
    (fun (st : State) text =>
      let gone := fun (st : State) => (st.complain "No such process\n").done 1
      if !st.goesOn || st.status = 2 then st
      else if text.startsWith "%" then
        match st.job? text with
        | .ok _ => gone st
        | .error why => st.refuse "kill" why
      else
        st.withNumber "kill" text fun n =>
          match st.signalProcess signal n with
          | some st => st
          | none => gone st)
    (st.done 0)

/-- Sends signals. -/
def sendSignals (st : State) (arguments : List String) : State :=
  let usage := st.refuse "kill" killUsage
  let send (signal : Nat) (targets : List String) : State :=
    if targets.isEmpty then usage else st.signalAll signal targets
  match arguments with
  | [] => usage
  | first :: rest =>
    let direct :=
      if first.startsWith "-" then Signal.ofText? 1 (String.ofList (first.toList.drop 1)) else none
    match direct with
    | some signal => send signal rest
    | none =>
      st.withOptions "kill" "ls:" arguments fun given =>
        if given.has 'l' then st.listSignals given.rest
        else
          match given.options.getLast? with
          | some (_, text) =>
            match Signal.ofText? 1 text with
            | some signal => send signal given.rest
            | none => st.refuse "kill" s!"invalid signal number or name: {text}"
          | none => send Signal.terminate given.rest

/-! ## Jobs -/

/-- Lists jobs, and forgets those that have ended. -/
def listJobs (st : State) (arguments : List String) : State :=
  st.withOptions "jobs" "lp" arguments fun given =>
    let present (st : State) (j : Job) : State :=
      if given.has 'p' then st.print s!"{j.process}\n"
      else
        let own := (st.jobs.filter fun j => j.number ≠ 0).reverse
        let mark :=
          if own.head?.any (·.process = j.process) then "+"
          else if (own[1]?).any (·.process = j.process) then "-" else " "
        let st := st.print (j.line mark (given.has 'l'))
        if j.status.isSome then
          { st with jobs := st.jobs.filter fun k => k.process ≠ j.process }
        else st
    if given.rest.isEmpty then
      (st.jobs.filter fun j => j.number ≠ 0).reverse.foldl present (st.done 0)
    else
      given.rest.foldl
        (fun (st : State) text =>
          if st.status ≠ 0 then st
          else
            match st.job? text with
            | .ok j => present st j
            | .error why => st.refuse "jobs" why)
        (st.done 0)

/-- Refuses to bring a job to the front or to let it go on: that takes a terminal. -/
def resumeJob (st : State) (command : String) (arguments : List String) : State :=
  st.withOptions command "" arguments fun given =>
    match st.job? (given.rest.headD "%%") with
    | .ok _ =>
      let name := given.rest.headD "(null)"
      st.refuse command s!"job {name} not created under job control"
    | .error why => st.refuse command why

/-! ## What the system gives -/

/-- The octal digits of a mask, four at least. -/
def maskDigits (mask : Nat) : String :=
  let digits := Nat.toDigits 8 mask
  String.ofList (List.replicate (4 - digits.length) '0' ++ digits)

/-- The letters of the permissions that a mask leaves. -/
def maskLetters (mask : Nat) : String :=
  let letters := fun (shift : Nat) =>
    let left := 7 - (mask >>> shift) % 8
    (if left &&& 4 ≠ 0 then "r" else "") ++ (if left &&& 2 ≠ 0 then "w" else "") ++
      if left &&& 1 ≠ 0 then "x" else ""
  s!"u={letters 6},g={letters 3},o={letters 0}"

/-- The permissions after changes in letters: who, how and what. They start from `old`, and `mode`
is what the changes so far make of it. `who` holds a bit for each of those that the next one is
for, if it is for the same as the last one. -/
def changeMode (old : Nat) : (fuel : Nat) → (who mode : Nat) → List Char → Option Nat
  | _, _, mode, [] => some mode
  | 0, _, _, _ => none
  | fuel + 1, who, mode, s =>
    let named := s.takeWhile fun c => "augo".contains c
    let who := named.foldl (fun n c =>
      n ||| (if c = 'u' then 64 else if c = 'g' then 8 else if c = 'o' then 1 else 73)) who
    let who := if who = 0 then 73 else who
    match s.drop named.length with
    | [] => none
    | sign :: rest =>
      let what := rest.takeWhile fun c => "rwxugoXs".contains c
      let bits := what.foldl (fun n c => n ||| permission c) 0 % 8 * who
      let mode :=
        if sign = '+' then mode ||| bits
        else if sign = '-' then mode &&& (511 ^^^ bits)
        else bits ||| (mode &&& (511 ^^^ (7 * who)))
      if !"=+-".contains sign then none
      else
        match rest.drop what.length with
        | [] => some mode
        | ',' :: rest => changeMode old fuel 0 mode rest
        | c :: rest => if "=+-".contains c then changeMode old fuel who mode (c :: rest) else none
where
  /-- The permissions that a letter names, for one of those who can have them. -/
  permission (c : Char) : Nat :=
    match c with
    | 'r' => 4
    | 'w' => 2
    | 'x' => 1
    | 'X' => if old &&& 73 = 0 then 0 else 1
    | 'u' => old >>> 6
    | 'g' => old >>> 3
    | 'o' => old
    | _ => 0

/-- Shows or changes the permissions that new files do not get. -/
def changeMask (st : State) (arguments : List String) : State :=
  st.withOptions "umask" "S" arguments fun given =>
    match given.rest with
    | [] =>
      let text := if given.has 'S' then maskLetters st.mask else maskDigits st.mask
      st.emitText "umask" (text ++ "\n") 0
    | text :: _ =>
      if text.toList.head?.any Char.isDigit then
        if text.toList.all fun c => '0' ≤ c && c ≤ '7' then
          let n := text.toList.foldl (fun n c => 8 * n + digitsValue [c]) 0
          { st.done 0 with mask := n % 512 }
        else st.refuse "umask" s!"Illegal number: {text}"
      else
        let mode := 511 ^^^ st.mask
        match changeMode mode text.length 0 mode text.toList with
        | some mode => { st.done 0 with mask := 511 ^^^ mode }
        | none => st.refuse "umask" s!"Illegal mode: {text}"

/-- Shows limits, none of which is there before it is set, or takes note of one. -/
def changeLimits (st : State) (arguments : List String) : State :=
  st.withOptions "ulimit" "HSatfdsmcnplvwr" arguments fun given =>
    let letters := (given.options.map (·.1)).filter fun c => !(['H', 'S', 'a'].contains c)
    let letter := letters.getLast?.getD 'f'
    match given.rest with
    | [] => st.emitText "ulimit" ((st.limits.lookup letter).getD "unlimited" ++ "\n") 0
    | [text] =>
      if text = "unlimited" || (!text.isEmpty && text.toList.all Char.isDigit) then
        { st.done 0 with limits := (letter, text) :: st.limits }
      else st.refuse "ulimit" "bad number"
    | _ => st.refuse "ulimit" "too many arguments"

/-- Writes the times that the shell has used, which is too little to count. -/
def showTimes (st : State) : State :=
  let line := "0m0.000000s 0m0.000000s\n"
  st.emitText "times" (line ++ line) 0

end State

end NodeCoverage.Simulator.Shell
