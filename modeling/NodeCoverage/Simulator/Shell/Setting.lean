import NodeCoverage.Simulator.Shell.Report

/-!
# Switches and arguments

The commands that turn switches on and off, change the arguments, and read options from them.
-/

namespace NodeCoverage.Simulator.Shell

namespace State

/-! ## Switches -/

/-- Turns a switch on or off. Without a terminal there is no control over jobs. -/
def turn (st : State) (on : Bool) (s : Switch) : State :=
  if on && s == .monitor then st.complain "can't access tty; job control turned off"
  else { st with switches := Switch.set on s st.switches }

/-- What options make of a shell. -/
structure Optioned where
  st : State
  /-- The arguments after the options. -/
  rest : List String := []
  /-- Whether two hyphens ended them. -/
  ended : Bool := false
  /-- Whether the letter for a script in the arguments was among them. -/
  command : Bool := false
  /-- Whether the letter for a script in the input was among them. -/
  fromInput : Bool := false

/-- Turns a switch on or off by its name, or lists all if the name is missing. -/
def readName (on : Bool) (o : Optioned) : Except String Optioned :=
  match o.rest with
  | [] =>
    let text := (if on then Switch.listing else Switch.commands) o.st.switches
    .ok { o with st := o.st.print text }
  | name :: rest =>
    match Switch.ofName? name with
    | some s => .ok { o with st := o.st.turn on s, rest := rest }
    | none => .error s!"Illegal option {signText on}o {name}"
where
  /-- The sign before the letters of an option. -/
  signText (on : Bool) : String := if on then "-" else "+"

/-- Reads the letters of an option. -/
def readLetters (on starting : Bool) (o : Optioned) : List Char → Except String Optioned
  | [] => .ok o
  | c :: rest => do
    if c = 'c' ∧ starting then readLetters on starting { o with command := true } rest
    else if c = 'l' ∧ starting then readLetters on starting o rest
    else if c = 'o' then readLetters on starting (← readName on o) rest
    else
      match Switch.ofLetter? c with
      | some s =>
        let o := { o with st := o.st.turn on s, fromInput := o.fromInput || c = 's' }
        readLetters on starting o rest
      | none => throw s!"Illegal option {readName.signText on}{c}"

/-- Reads the options at the front of no more than `fuel` arguments, or gives what was wrong. -/
def readOptions (starting : Bool) :
    (fuel : Nat) → Optioned → List String → Except String Optioned
  | 0, o, rest => .ok { o with rest := rest }
  | fuel + 1, o, arguments =>
    match arguments with
    | [] => .ok o
    | a :: rest =>
      match a.toList with
      | ['-', '-'] => .ok { o with rest := rest, ended := true }
      | ['-'] =>
        let st := if starting then o.st else (o.st.turn false .trace).turn false .verbose
        .ok { o with st := st, rest := rest }
      | sign :: letters =>
        if sign ≠ '-' ∧ sign ≠ '+' then .ok { o with rest := a :: rest }
        else do
          let on := sign = '-'
          let o ← readLetters on starting { o with rest := rest } letters
          readOptions starting fuel { o with rest := [] } o.rest
      | [] => .ok { o with rest := a :: rest }

/-- Changes switches and arguments, or lists the variables. -/
def setArguments (st : State) (arguments : List String) (listing : String) : State :=
  if arguments.isEmpty then st.emitText "set" listing 0
  else
    match readOptions false arguments.length { st := st } arguments with
    | .error text => st.refuse "set" text
    | .ok o =>
      let st := o.st.done 0
      if o.ended || !o.rest.isEmpty then
        { st with arguments := o.rest, optionPlace := (1, none) }
      else st

/-- Drops arguments at the front. -/
def shift (st : State) (arguments : List String) : State :=
  st.withNumber "shift" (arguments.headD "1") fun n =>
    if st.arguments.length < n then st.refuse "shift" "can't shift that many"
    else { st.done 0 with arguments := st.arguments.drop n, optionPlace := (1, none) }

/-! ## Options of scripts -/

/-- What the next option of a script is. -/
structure ScriptOption where
  /-- The letter, a question mark at the end or after an error. -/
  letter : String := "?"
  /-- The argument of the option, or nothing where there is no value. -/
  argument : Option (Option String) := none
  complaint : Option String := none
  ended : Bool := false
  /-- The number of the argument that is read next. -/
  index : Nat
  /-- Where in the argument before it reading was left. -/
  offset : Option Nat := none

/-- The next option among some arguments, from a place on. -/
def nextOption (letters : String) (arguments : List String) (place : Nat × Option Nat) :
    ScriptOption :=
  let (index, offset) := place
  let text := fun (n : Nat) => (if n = 0 then none else arguments[n - 1]?).map String.toList
  let inside : Option (List Char) :=
    match offset, text (index - 1) with
    | some k, some cs => if 1 < index && k ≤ cs.length then some (cs.drop k) else none
    | _, _ => none
  let found : Option (List Char × Nat) :=
    match inside with
    | some (c :: cs) => some (c :: cs, index)
    | _ =>
      match text index with
      | some ('-' :: c :: cs) => some (c :: cs, index + 1)
      | _ => none
  match found with
  | none | some ([], _) => { ended := true, index := index }
  | some (c :: cs, next) =>
    if c = '-' ∧ cs.isEmpty ∧ next ≠ index then { ended := true, index := next }
    else
    let place := ((text (next - 1)).getD []).length - cs.length
    let silent := letters.startsWith ":"
    match if c = ':' then none else Given.takes? letters.toList c with
    | none =>
      { argument := some (if silent then some c.toString else none)
        complaint := if silent then none else some s!"Illegal option -{c}"
        index := next
        offset := some place }
    | some false =>
      { letter := c.toString, argument := some (some ""), index := next, offset := some place }
    | some true =>
      match cs, text next with
      | _ :: _, _ =>
        { letter := c.toString, argument := some (some (String.ofList cs)), index := next }
      | [], some value =>
        { letter := c.toString
          argument := some (some (String.ofList value))
          index := next + 1 }
      | [], none =>
        { letter := if silent then ":" else "?"
          argument := some (if silent then some c.toString else none)
          complaint := if silent then none else some s!"No arg for -{c} option"
          index := next }

/-- Reads the next option of the script, or of further arguments, into a variable. -/
def readOption (st : State) (arguments : List String) : State :=
  st.withOptions "getopts" "" arguments fun given =>
    match given.rest with
    | letters :: name :: further =>
      let among := if further.isEmpty then st.arguments else further
      let place := if among.length + 1 < st.optionPlace.1 then (1, none) else st.optionPlace
      let o := nextOption letters among place
      let st := (o.complaint.map st.remark).getD st
      let st :=
        match o.argument with
        | some (some value) => st.assign "OPTARG" value
        | some none => st.bind "OPTARG" none
        | none => st
      let st := st.assign "OPTIND" (toString o.index)
      let st := { st with optionPlace := (o.index, o.offset) }
      if !st.goesOn then st
      else if !isName name then st.refuse "getopts" s!"{name}: bad variable name"
      else
        let st := st.assign name o.letter
        if st.goesOn then st.done (if o.ended then 1 else 0) else st
    | _ => st.refuse "getopts" "Usage: getopts optstring var [arg...]"

end State

end NodeCoverage.Simulator.Shell
